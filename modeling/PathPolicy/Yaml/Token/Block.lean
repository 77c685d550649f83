import PathPolicy.Yaml.Cursor

/-! Block texts: lines that are indented more than what they belong to. A folded text
joins lines that begin with no blank. -/

namespace PathPolicy.Yaml.Block

open Scan

/-- What is kept of the line breaks at the end. -/
inductive Chomp where
  | strip
  | clip
  | keep
  deriving Repr, DecidableEq

structure Header where
  chomp : Chomp := .clip
  indent : Option Nat := none
  deriving Repr, DecidableEq

def chomp? (c : Option Char) : Option Chomp :=
  match c with
  | some '+' => some .keep
  | some '-' => some .strip
  | _ => none

def indentSign : Scan (Option Nat) := do
  match (← peek).filter Char.isDigit with
  | none => return none
  | some d =>
    if d = '0' then refuse .badBlockHeader
    advance 1
    return some (d.toNat - 0x30)

def chompSign : Scan (Option Chomp) := do
  let sign := chomp? (← peek)
  if sign.isSome then advance 1
  return sign

/-- The two signs in either order. -/
def header : Scan Header := do
  let (chomp, indent) ←
    match ← chompSign with
    | some chomp => pure (some chomp, ← indentSign)
    | none => do
      let indent ← indentSign
      if indent.isNone then pure (none, none) else pure (← chompSign, indent)
  if !isSpaceOrEnd (← peek) then refuse .badBlockHeader
  endOfLine .badBlockHeader
  return ⟨chomp.getD .clip, indent⟩

/-- Empty lines at the start, and the widest indentation among them and the first line. -/
def leading (widest : Nat) : Nat → Scan (List Char × Nat)
  | 0 => return ([], widest)
  | fuel + 1 => do
    match ← peek with
    | some ' ' =>
      advance 1
      leading (max widest (← get).column) fuel
    | some c =>
      if isBreak c then
        let b ← takeBreak
        let (more, widest) ← leading widest fuel
        return (b ++ more, widest)
      return ([], widest)
    | none => return ([], widest)

def skipIndent (indent : Nat) : Nat → Scan Unit
  | 0 => return
  | fuel + 1 => do
    if (← get).column < indent && (← peek) == some ' ' then
      advance 1
      skipIndent indent fuel

/-- Empty lines, up to the indentation of the next line. -/
def breaks (indent : Nat) : Nat → Scan (List Char)
  | 0 => return []
  | fuel + 1 => do
    skipIndent indent indent
    if (← peek).any isBreak then
      let b ← takeBreak
      return b ++ (← breaks indent fuel)
    return []

def atLine (c : Cursor) (indent : Nat) : Bool := c.column = indent && c.peek.isSome

def isBlankNext (c : Option Char) : Bool := c == some ' ' || c == some '\t'

/-- The lines from a place on where one begins. The last line break and the empty lines
after it are apart. -/
def lines (folded : Bool) (indent : Nat) (done : List Char) :
    Nat → Scan (List Char × List Char × List Char)
  | 0 => return (done, [], [])
  | fuel + 1 => do
    let plain := !isBlankNext (← peek)
    let done := done ++ (← takeWhile (!isBreak ·))
    let last ← takeBreak
    let empty ← breaks indent (← Scan.fuel)
    if !atLine (← get) indent then return (done, last, empty)
    let joined := folded && last == ['\n'] && plain && !isBlankNext (← peek)
    let between := if !joined then last ++ empty else if empty.isEmpty then [' '] else empty
    lines folded indent (done ++ between) fuel

/-- Begins at the sign of the text; `least` is the least indentation of its lines. -/
def text (folded : Bool) (least : Nat) : Scan String := do
  advance 1
  let h ← header
  let (first, indent) ←
    match h.indent with
    | some more =>
      let indent := least + more - 1
      pure (← breaks indent (← fuel), indent)
    | none => do
      let (first, widest) ← leading 0 (← fuel)
      pure (first, max least widest)
  let (done, last, empty) ←
    if atLine (← get) indent then lines folded indent first (← fuel) else pure ([], [], first)
  let tail :=
    match h.chomp with
    | .strip => []
    | .clip => last
    | .keep => last ++ empty
  return String.ofList (done ++ tail)

end PathPolicy.Yaml.Block
