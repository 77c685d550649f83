import PathPolicy.Regex.Cursor
import PathPolicy.Number.Reading

/-! Escapes, and the classes in brackets that may hold them. -/

namespace PathPolicy.Regex

/-- The characters that are known by name. -/
class CharacterNames where
  codeOf? : List Char → Option Nat

namespace Reading

variable [CharacterNames]

def isOctal (c : Char) : Bool := '0' ≤ c && c ≤ '7'

def isHex (c : Char) : Bool := (Number.digitIn? 16 c).isSome && c.toNat < 0x80

def isAsciiAlpha (c : Char) : Bool := c.isUpper || c.isLower

def digitsValue (base : Nat) (cs : List Char) : Nat :=
  Number.valueOf base (cs.filterMap (Number.digitIn? base))

/-- Escapes for one control character. -/
def control? (c : Char) : Option Nat :=
  match c with
  | 'a' => some 7
  | 'b' => some 8
  | 'f' => some 12
  | 'n' => some 10
  | 'r' => some 13
  | 't' => some 9
  | 'v' => some 11
  | '\\' => some 0x5C
  | _ => none

def category? (c : Char) : Option Category :=
  match c with
  | 'd' => some ⟨.digit, false⟩
  | 'D' => some ⟨.digit, true⟩
  | 's' => some ⟨.space, false⟩
  | 'S' => some ⟨.space, true⟩
  | 'w' => some ⟨.word, false⟩
  | 'W' => some ⟨.word, true⟩
  | _ => none

def anchor? (c : Char) : Option Anchor :=
  match c with
  | 'A' => some .textStart
  | 'Z' => some .textEnd
  | 'b' => some .boundary
  | 'B' => some .notBoundary
  | _ => none

/-- A code point of exactly `count` hexadecimal digits. -/
def hexCode (count : Nat) : Reading Nat := do
  let digits ← takeWhile isHex count
  if digits.length != count then fail .badEscape
  let code := digitsValue 16 digits
  if 0x10FFFF < code then fail .badEscape
  return code

/-- The character of a name in braces. -/
def namedCode : Reading Nat := do
  if !(← accept '\x7b') then fail .badCharacterName
  match CharacterNames.codeOf? (← takeName '\x7d' .badCharacterName) with
  | some code => return code
  | none => fail .badCharacterName

/-- Escapes that mean the same inside and outside a class. -/
def plainEscape (c : Char) : Reading Nat :=
  if c = 'x' then hexCode 2
  else if c = 'u' then hexCode 4
  else if c = 'U' then hexCode 8
  else if c = 'N' then namedCode
  else if c.isDigit || isAsciiAlpha c then fail .badEscape
  else return c.toNat

def classEscape (c : Char) : Reading ClassItem := do
  if let some code := control? c then return .char code
  if let some cat := category? c then return .category cat
  if isOctal c then
    let code := digitsValue 8 (c :: (← takeWhile isOctal 2))
    if 0o377 < code then fail .octalTooLarge
    return .char code
  return .char (← plainEscape c)

/-- Two digits are a reference to a group unless three octal digits stand there. -/
def numberEscape (c : Char) : Reading Node := do
  let more ← takeWhile Char.isDigit 1
  match more with
  | [d] =>
    if isOctal c && isOctal d then
      if let [e] ← takeWhile isOctal 1 then
        let code := digitsValue 8 [c, d, e]
        if 0o377 < code then fail .octalTooLarge
        return .char code
    reference (digitsValue 10 [c, d])
  | _ => reference (digitsValue 10 [c])

def escape (c : Char) : Reading Node := do
  if let some a := anchor? c then return .anchor a
  if let some cat := category? c then return .oneOf false [.category cat]
  if let some code := control? c then return .char code
  if c = '0' then return .char (digitsValue 8 (c :: (← takeWhile isOctal 2)))
  if c.isDigit then numberEscape c
  else return .char (← plainEscape c)

/-! Classes. -/

def classItem (token : Token) : Reading ClassItem :=
  match token with
  | .char c => return .char c.toNat
  | .escaped c => classEscape c

def range (lo hi : ClassItem) : Reading ClassItem :=
  match lo, hi with
  | .char a, .char b => if b < a then fail .badRange else return .range a b
  | _, _ => fail .badRange

/-- The items up to the closing bracket, which is an item itself if it comes first. -/
def classItems (items : List ClassItem) : Nat → Reading (List ClassItem)
  | 0 => fail .unterminatedClass
  | fuel + 1 => do
    match ← take with
    | none => fail .unterminatedClass
    | some token =>
      if token == .char ']' && !items.isEmpty then return items
      let item ← classItem token
      if ← accept '-' then
        match ← take with
        | none => fail .unterminatedClass
        | some last =>
          if last == .char ']' then return items ++ [item, .char 0x2D]
          let r ← range item (← classItem last)
          classItems (items ++ [r]) fuel
      else classItems (items ++ [item]) fuel

def characterClass : Reading Node := do
  let negated ← accept '^'
  let items ← classItems [] ((← get).rest.length + 2)
  match items.eraseDups with
  | [.char code] => return if negated then .notChar code else .char code
  | distinct => return .oneOf negated distinct

end Reading

end PathPolicy.Regex
