import PathPolicy.Regex.Node
import PathPolicy.Text.CaseRuns
import PathPolicy.Text.CaseFold
import PathPolicy.Text.Word
import PathPolicy.Text.Decimal
import PathPolicy.Text.Blank

/-! Which characters a character or a class stands for. Where letter case is
ignored, the character of the text is put into lower case first; this is done only
if the class names a letter that has another case. Above U+FFFF a class names lower
forms only, by itself or as the end points of a range. -/

namespace PathPolicy.Regex

open Text

def isAsciiLetter (n : Nat) : Bool := (0x41 ≤ n && n ≤ 0x5A) || (0x61 ≤ n && n ≤ 0x7A)

def asciiLower (n : Nat) : Nat := if 0x41 ≤ n && n ≤ 0x5A then n + 32 else n

namespace CategoryKind

def holds (ascii : Bool) (kind : CategoryKind) (n : Nat) : Bool :=
  let c := Char.ofNat n
  if ascii then
    match kind with
    | digit => c.isDigit
    | space => n == 0x20 || (0x09 ≤ n && n ≤ 0x0D)
    | word => c = '_' || c.isDigit || isAsciiLetter n
  else
    match kind with
    | digit => isDecimal c
    | space => isBlank c
    | word => isWord c

end CategoryKind

def Category.holds (ascii : Bool) (c : Category) (n : Nat) : Bool :=
  c.kind.holds ascii n != c.negated

namespace Mode

def lower (m : Mode) (n : Nat) : Nat := if m.ascii then asciiLower n else lowerCode n

def cased (m : Mode) (n : Nat) : Bool := if m.ascii then isAsciiLetter n else hasCase n

/-- A letter with another case lies between `lo` and `hi`. -/
def casedBetween (m : Mode) (lo hi : Nat) : Bool :=
  if m.ascii then (lo ≤ 0x5A && 0x41 ≤ hi) || (lo ≤ 0x7A && 0x61 ≤ hi)
  else lowerRuns.any (·.meets lo hi) || upperRuns.any (·.meets lo hi)

def sharers (m : Mode) (n : Nat) : List Nat := if m.ascii then [] else sharing n

/-- The code points whose lower form is `n`. -/
def origins (m : Mode) (n : Nat) : List Nat :=
  let moved :=
    if m.ascii then if 0x61 ≤ n && n ≤ 0x7A then [n - 32] else []
    else lowerRuns.filterMap (·.origin? n)
  if m.lower n = n then n :: moved else moved

/-- The code points that a letter in lower case stands for in a range. -/
def variants (m : Mode) (n : Nat) : List Nat := (n :: m.sharers n).flatMap m.origins

end Mode

def charHolds (m : Mode) (code n : Nat) : Bool :=
  if m.ignoreCase && m.cased code then
    let low := m.lower code
    m.lower n == low || (m.sharers low).contains (m.lower n)
  else n == code

namespace ClassItem

def holds (ascii : Bool) (n : Nat) : ClassItem → Bool
  | char code => n == code
  | range lo hi => lo ≤ n && n ≤ hi
  | category c => c.holds ascii n

/-- The item makes the class ignore letter case. -/
def folds (m : Mode) : ClassItem → Bool
  | char code => m.cased code || 0xFFFF < code
  | range lo hi => 0xFFFF < hi || m.casedBetween lo hi
  | category _ => false

/-- `n` is in lower case. -/
def holdsFolded (m : Mode) (n : Nat) : ClassItem → Bool
  | char code =>
    if 0xFFFF < code then n == code
    else n == m.lower code || (m.sharers (m.lower code)).contains n
  | range lo hi =>
    (m.variants n).any (fun v => lo ≤ v && v ≤ min hi 0xFFFF) ||
      (0xFFFF < hi && ((lo ≤ n && n ≤ hi) || (lo ≤ upperCode n && upperCode n ≤ hi)))
  | category c => c.holds m.ascii n

end ClassItem

def classHolds (m : Mode) (items : List ClassItem) (n : Nat) : Bool :=
  if m.ignoreCase && items.any (·.folds m) then items.any (·.holdsFolded m (m.lower n))
  else items.any (·.holds m.ascii n)

end PathPolicy.Regex
