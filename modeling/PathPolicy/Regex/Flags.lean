/-! Flags of an expression. From outside they come as one word of any size, whose
bits are read in two's complement; inside an expression they come as letters. -/

namespace PathPolicy.Regex

inductive Flag where
  | template
  | ignoreCase
  | locale
  | multiline
  | dotAll
  | unicode
  | verbose
  | ascii
  deriving Repr, DecidableEq

namespace Flag

def bit : Flag → Nat
  | template => 0
  | ignoreCase => 1
  | locale => 2
  | multiline => 3
  | dotAll => 4
  | unicode => 5
  | verbose => 6
  | ascii => 8

def ofLetter? (c : Char) : Option Flag :=
  match c with
  | 'i' => some ignoreCase
  | 'L' => some locale
  | 'm' => some multiline
  | 's' => some dotAll
  | 'x' => some verbose
  | 'a' => some ascii
  | 't' => some template
  | 'u' => some unicode
  | _ => none

/-- The flags that choose the alphabet; an expression has one of them. -/
def isAlphabet : Flag → Bool
  | ascii => true
  | locale => true
  | unicode => true
  | _ => false

def value (f : Flag) : Int := (1 <<< f.bit : Nat)

end Flag

/-- A flag word; bits without a meaning are kept. -/
abbrev Flags := Int

namespace Flags

def has (w : Flags) (f : Flag) : Bool := (w >>> f.bit) % 2 == 1

def add (w : Flags) (f : Flag) : Flags := if has w f then w else w + f.value

def remove (w : Flags) (f : Flag) : Flags := if has w f then w - f.value else w

def addAll (w : Flags) (fs : List Flag) : Flags := fs.foldl add w

/-- The low nine bits: no bit above them has a meaning. -/
def known (w : Flags) : Flags := w % 0x200

/-- A signed machine word of 32 bits holds the flags. -/
def fits (w : Flags) : Bool := -0x80000000 ≤ w && w < 0x80000000

end Flags

/-- What the flags mean for matching. -/
structure Mode where
  ignoreCase : Bool := false
  multiline : Bool := false
  dotAll : Bool := false
  ascii : Bool := false
  deriving Repr, DecidableEq

def Flags.mode (w : Flags) : Mode where
  ignoreCase := Flags.has w .ignoreCase
  multiline := Flags.has w .multiline
  dotAll := Flags.has w .dotAll
  ascii := Flags.has w .ascii

/-- Flags that a group turns on and off for its body. -/
structure Scope where
  on : List Flag := []
  off : List Flag := []
  deriving Repr, DecidableEq

namespace Scope

def isPlain (s : Scope) : Bool := s.on.isEmpty && s.off.isEmpty

def setting (s : Scope) (f : Flag) (outer : Bool) : Bool :=
  !s.off.contains f && (outer || s.on.contains f)

def enter (s : Scope) (m : Mode) : Mode where
  ignoreCase := s.setting .ignoreCase m.ignoreCase
  multiline := s.setting .multiline m.multiline
  dotAll := s.setting .dotAll m.dotAll
  ascii := s.on.contains .ascii || (m.ascii && !s.on.contains .unicode)

end Scope

end PathPolicy.Regex
