import PathPolicy.Yaml.Cursor

/-! Texts without quotes. They end before a comment, before a colon with a space behind
it and, inside brackets, before what separates items. -/

namespace PathPolicy.Yaml.Plain

open Scan

def isBracket (c : Char) : Bool := [',', '[', ']', '\x7b', '\x7d'].contains c

/-- Whether the text ends before a character, which another one follows. -/
def stops (inFlow : Bool) (c : Char) (following : Option Char) : Bool :=
  c = ' ' || c = '\t' || isBreak c ||
    (c = ':' && (isBlankOrEnd following || (inFlow && following.any isBracket))) ||
    (inFlow && (c = '?' || isBracket c))

def lengthOfRun (inFlow : Bool) : List Char → Nat
  | [] => 0
  | c :: rest => if stops inFlow c rest.head? then 0 else lengthOfRun inFlow rest + 1

def run (inFlow : Bool) : Scan (List Char) := do
  let c ← get
  let length := lengthOfRun inFlow c.rest
  advance length
  return c.rest.take length

/-- Line breaks and the indentation of the lines after them; nothing if a document mark
comes. -/
def breaks : Nat → Scan (Option (List Char))
  | 0 => return some []
  | fuel + 1 => do
    skipSpaces
    if (← peek).any isBreak then
      let b ← takeBreak
      if (← get).isDocumentMark then return none
      return (← breaks fuel).map (b ++ ·)
    return some []

/-- What stands between two runs, and whether it goes over the end of a line. -/
def between : Scan (List Char × Bool) := do
  let spaces ← takeWhile (· = ' ')
  if !(← peek).any isBreak then return (spaces, false)
  let first ← takeBreak
  if (← get).isDocumentMark then return ([], true)
  match ← breaks (← fuel) with
  | none => return ([], true)
  | some more =>
    if first ≠ ['\n'] then return (first ++ more, true)
    return (if more.isEmpty then [' '] else more, true)

/-- The text, and whether the place after it is on a new line. `least` is the least
indentation of its lines. -/
def runs (inFlow : Bool) (least : Nat) (done space : List Char) (isNewLine : Bool) :
    Nat → Scan (List Char × Bool)
  | 0 => return (done, isNewLine)
  | fuel + 1 => do
    if (← peek) == some '#' then return (done, isNewLine)
    let part ← run inFlow
    if part.isEmpty then return (done, isNewLine)
    let done := done ++ space ++ part
    let (space, isNewLine) ← between
    let c ← get
    if space.isEmpty || c.peek == some '#' || (!inFlow && c.column < least) then
      return (done, isNewLine)
    runs inFlow least done space isNewLine fuel

def text (inFlow : Bool) (least : Nat) : Scan (String × Bool) := do
  let (done, isNewLine) ← runs inFlow least [] [] false (← fuel)
  return (String.ofList done, isNewLine)

end PathPolicy.Yaml.Plain
