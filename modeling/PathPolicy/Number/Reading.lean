import PathPolicy.Text.Blank
import PathPolicy.Text.Decimal

/-! Numbers read from text. Integers may have white space around them, a sign,
digits of any script, single underscores between digits, and in base 2, 8 or 16
the usual mark in front; in base 10 they may not be longer than 4300 digits. -/

namespace PathPolicy.Number

inductive IntegerFault where
  | malformed
  | tooLong (digits : Nat)
  deriving Repr, DecidableEq

def longestInteger : Nat := 4300

def letterValue? (c : Char) : Option Nat :=
  let n := c.toNat
  if 0x61 ≤ n && n ≤ 0x7A then some (n - 0x57)
  else if 0x41 ≤ n && n ≤ 0x5A then some (n - 0x37)
  else none

/-- The value of a digit in `base`. -/
def digitIn? (base : Nat) (c : Char) : Option Nat :=
  ((Text.digitValue? c).or (letterValue? c)).filter (· < base)

/-- The digits of an integer; an underscore stands between two digits. -/
def digitsIn? (base : Nat) (afterDigit : Bool) : List Char → Option (List Nat)
  | [] => if afterDigit then some [] else none
  | c :: rest =>
    if c = '_' then if afterDigit then digitsIn? base false rest else none
    else
      match digitIn? base c with
      | none => none
      | some d => (digitsIn? base true rest).map (d :: ·)

def baseMark (base : Nat) (c : Char) : Bool :=
  (base == 16 && (c = 'x' || c = 'X')) || (base == 8 && (c = 'o' || c = 'O')) ||
    (base == 2 && (c = 'b' || c = 'B'))

/-- Without the mark of the base, after which an underscore may stand. -/
def dropMark (base : Nat) : List Char → List Char
  | '0' :: c :: rest =>
    if baseMark base c then
      match rest with
      | '_' :: more => more
      | _ => rest
    else '0' :: c :: rest
  | s => s

def valueOf (base : Nat) (digits : List Nat) : Nat := digits.foldl (fun n d => n * base + d) 0

def splitSign : List Char → Bool × List Char
  | '-' :: rest => (true, rest)
  | '+' :: rest => (false, rest)
  | s => (false, s)

def readInteger (base : Nat) (s : List Char) : Except IntegerFault Int :=
  let (negative, body) := splitSign (Text.trimChars s)
  match digitsIn? base false (dropMark base body) with
  | none => .error .malformed
  | some digits =>
    if base == 10 && longestInteger < digits.length then .error (.tooLong digits.length)
    else
      let n : Int := valueOf base digits
      .ok (if negative then -n else n)

/-- `digits * 10 ^ exponent`, rounded to the nearest double. -/
def ofDecimal (digits : Nat) (exponent : Int) : Float :=
  let size : Int := (Nat.toDigits 10 digits).length + exponent
  if digits == 0 || size < -400 then 0.0
  else if 400 < size then 1.0 / 0.0
  else Float.ofScientific digits (exponent < 0) exponent.natAbs

/-- Splits off the digits at the front, with single underscores between them. -/
def takeDigits (s : List Char) : List Char × List Char :=
  s.span fun c => c.isDigit

def readExponent? : List Char → Option Int
  | [] => some 0
  | c :: rest =>
    if c = 'e' || c = 'E' then
      let (negative, body) := splitSign rest
      if body.isEmpty || !body.all Char.isDigit then none
      else
        let n : Int := valueOf 10 (body.map fun d => d.toNat - 0x30)
        some (if negative then -n else n)
    else none

/-- Unsigned decimal text without underscores. -/
def readDecimal? (s : List Char) : Option Float :=
  let (whole, rest) := takeDigits s
  let (part, rest) :=
    match rest with
    | '.' :: more => takeDigits more
    | _ => ([], rest)
  if whole.isEmpty && part.isEmpty then none
  else
    (readExponent? rest).map fun e =>
      ofDecimal (valueOf 10 ((whole ++ part).map fun d => d.toNat - 0x30)) (e - part.length)

/-- A single underscore may stand between two digits. -/
def dropUnderscores? (afterDigit : Bool) : List Char → Option (List Char)
  | [] => some []
  | '_' :: c :: rest =>
    if afterDigit && c.isDigit then (dropUnderscores? true rest).map (c :: ·) else none
  | c :: rest => if c = '_' then none else (dropUnderscores? c.isDigit rest).map (c :: ·)

def toAsciiDigit (c : Char) : Char :=
  match Text.digitValue? c with
  | some d => Char.ofNat (0x30 + d)
  | none => c

/-- Decimal text, `inf`, `infinity` or `nan` in any letter case, signed, with white
space around it. -/
def readFloat? (s : List Char) : Option Float :=
  let (negative, body) := splitSign (Text.trimChars s)
  let size? :=
    match String.ofList (body.map Char.toLower) with
    | "inf" => some (1.0 / 0.0)
    | "infinity" => some (1.0 / 0.0)
    | "nan" => some (0.0 / 0.0)
    | _ => (dropUnderscores? false (body.map toAsciiDigit)).bind readDecimal?
  size?.map fun x => if negative then -x else x

end PathPolicy.Number
