import PathPolicy.Yaml.Fault

/-! A place in a document: what is left of the text, and where that is. -/

namespace PathPolicy.Yaml

def isBreak (c : Char) : Bool :=
  c = '\n' || c = '\r' || c = '\u0085' || c = '\u2028' || c = '\u2029'

/-- The end of the text, or a character of the class. -/
def orEnd (p : Char → Bool) (c : Option Char) : Bool := c.all p

def isBreakOrEnd (c : Option Char) : Bool := orEnd isBreak c

def isSpaceOrEnd (c : Option Char) : Bool := orEnd (fun c => c = ' ' || isBreak c) c

def isBlankOrEnd (c : Option Char) : Bool := orEnd (fun c => c = ' ' || c = '\t' || isBreak c) c

structure Cursor where
  rest : List Char
  index : Nat := 0
  line : Nat := 0
  column : Nat := 0
  deriving Repr

namespace Cursor

def peek (c : Cursor) : Option Char := c.rest.head?

def peekAt (c : Cursor) (n : Nat) : Option Char := c.rest[n]?

/-- A byte order mark takes no column. -/
def next (c : Cursor) : Cursor :=
  match c.rest with
  | [] => c
  | ch :: rest =>
    let endsLine := isBreak ch && !(ch = '\r' && rest.head? == some '\n')
    { rest
      index := c.index + 1
      line := if endsLine then c.line + 1 else c.line
      column := if endsLine then 0 else if ch = '\uFEFF' then c.column else c.column + 1 }

def skip (c : Cursor) : Nat → Cursor
  | 0 => c
  | n + 1 => skip c.next n

/-- The characters of the class that come next, and the place after them. -/
def takeWhile (c : Cursor) (p : Char → Bool) : List Char × Cursor :=
  let taken := c.rest.takeWhile p
  (taken, c.skip taken.length)

/-- Three dashes or dots with nothing right behind them. -/
def isMark (c : Cursor) (ch : Char) : Bool :=
  c.rest.take 3 == [ch, ch, ch] && isBlankOrEnd (c.peekAt 3)

def isDocumentMark (c : Cursor) : Bool := c.isMark '-' || c.isMark '.'

end Cursor

/-- Reading from a place on, which can be refused. -/
abbrev Scan := StateT Cursor (Except Refusal)

namespace Scan

def refuse {α : Type} (reason : Malformed) : Scan α := throw (.malformed reason)

def peek : Scan (Option Char) := return (← get).peek

def peekAt (n : Nat) : Scan (Option Char) := return (← get).peekAt n

def advance (n : Nat) : Scan Unit := modify (·.skip n)

def takeWhile (p : Char → Bool) : Scan (List Char) := do
  let (taken, c) := (← get).takeWhile p
  set c
  return taken

def skipWhile (p : Char → Bool) : Scan Unit := discard (takeWhile p)

def skipSpaces : Scan Unit := skipWhile (· = ' ')

/-- A comment that begins here, without the end of its line. -/
def skipComment : Scan Unit := do
  if (← peek) == some '#' then skipWhile (!isBreak ·)

/-- The line break that comes next, as it counts in a text. -/
def takeBreak : Scan (List Char) := do
  match (← get).rest with
  | '\r' :: '\n' :: _ => advance 2; return ['\n']
  | ch :: _ =>
    if ch = '\u2028' || ch = '\u2029' then advance 1; return [ch]
    else if isBreak ch then advance 1; return ['\n']
    else return []
  | [] => return []

/-- More than the number of steps that reading one by one can take. -/
def fuel : Scan Nat := return (← get).rest.length + 1

/-- The rest of a line, which holds a comment at most. -/
def endOfLine (reason : Malformed) : Scan Unit := do
  skipSpaces
  skipComment
  if isBreakOrEnd (← peek) then discard takeBreak else refuse reason

end Scan

end PathPolicy.Yaml
