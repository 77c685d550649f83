import PathPolicy.Number.Double

/-! The shortest decimal that reads back as a given double, and its text.
Doubles from `10 ^ -4` up to below `10 ^ 16` are written positionally, all others
with an exponent of two digits or more. -/

namespace PathPolicy.Number

/-- Digits and power of ten: `digits * 10 ^ exponent`. -/
structure Decimal where
  digits : Nat
  exponent : Int
  deriving Repr, DecidableEq

/-- A positive rational, numerator over denominator. -/
structure Ratio where
  num : Nat
  den : Nat

def scaled (m : Nat) (e : Int) : Ratio :=
  if 0 ≤ e then ⟨m <<< e.toNat, 1⟩ else ⟨m, 1 <<< (-e).toNat⟩

def Ratio.overTen (r : Ratio) (e : Int) : Ratio :=
  if 0 ≤ e then ⟨r.num, r.den * Nat.pow 10 e.toNat⟩ else ⟨r.num * Nat.pow 10 (-e).toNat, r.den⟩

def digitCount (n : Nat) : Nat := (Nat.toDigits 10 n).length

/-- The least `k` up to `fuel` with `den ≤ num * 10 ^ k`. -/
def leadingZeros (num den : Nat) : Nat → Nat
  | 0 => 0
  | fuel + 1 => if den ≤ num then 0 else leadingZeros (num * 10) den fuel + 1

/-- The power of ten of the first digit. -/
def Ratio.magnitude (r : Ratio) : Int :=
  if r.den ≤ r.num then digitCount (r.num / r.den) - 1
  else -(leadingZeros r.num r.den 400 : Int)

/-- Half the distance to the neighbours, as quarters of the last place: two each
way, but one downwards at a power of two. -/
def roundsTo (m : Nat) (e : Int) (d : Decimal) : Bool :=
  let below := if m == 0x10000000000000 && e != -1074 then 1 else 2
  let lo := (scaled (4 * m - below) (e - 2)).overTen d.exponent
  let hi := (scaled (4 * m + 2) (e - 2)).overTen d.exponent
  if m % 2 == 0 then lo.num ≤ d.digits * lo.den && d.digits * hi.den ≤ hi.num
  else lo.num < d.digits * lo.den && d.digits * hi.den < hi.num

/-- On the grid of `count` digits, the neighbour of the value that reads back, the
nearer of two. -/
def onGrid? (m : Nat) (e : Int) (magnitude : Int) (count : Nat) : Option Decimal :=
  let step := magnitude - count + 1
  let r := (scaled m e).overTen step
  let down : Decimal := ⟨r.num / r.den, step⟩
  let up : Decimal := ⟨r.num / r.den + 1, step⟩
  let nearDown := 2 * r.num ≤ (2 * down.digits + 1) * r.den
  match roundsTo m e down, roundsTo m e up with
  | true, true => some (if nearDown then down else up)
  | true, false => some down
  | false, true => some up
  | false, false => none

/-- Drops zeros at the end, at most `fuel` of them. -/
def Decimal.trimmed (d : Decimal) : Nat → Decimal
  | 0 => d
  | fuel + 1 =>
    if d.digits != 0 && d.digits % 10 == 0 then
      Decimal.trimmed ⟨d.digits / 10, d.exponent + 1⟩ fuel
    else d

def shortest (m : Nat) (e : Int) : Decimal :=
  let magnitude := (scaled m e).magnitude
  let found := (List.range 17).findSome? fun k => onGrid? m e magnitude (k + 1)
  (found.getD ⟨m, 0⟩).trimmed 20

def padExponent (n : Nat) : String := if n < 10 then "0" ++ toString n else toString n

/-- The text of a positive decimal without zeros at the end. -/
def Decimal.text (d : Decimal) : String :=
  let digits := toString d.digits
  let count := digits.length
  let point : Int := count + d.exponent
  if -3 ≤ point && point ≤ 16 then
    if point ≤ 0 then "0." ++ String.ofList (List.replicate (-point).toNat '0') ++ digits
    else if (count : Int) ≤ point then
      digits ++ String.ofList (List.replicate (point - count).toNat '0') ++ ".0"
    else
      let cs := digits.toList
      String.ofList (cs.take point.toNat) ++ "." ++ String.ofList (cs.drop point.toNat)
  else
    let cs := digits.toList
    let lead := String.ofList (cs.take 1)
    let tail := if count == 1 then "" else "." ++ String.ofList (cs.drop 1)
    let power := point - 1
    let sign := if power < 0 then "-" else "+"
    lead ++ tail ++ "e" ++ sign ++ padExponent power.natAbs

def Double.text : Double → String
  | .nan => "nan"
  | .infinite negative => if negative then "-inf" else "inf"
  | .finite negative m e =>
    (if negative then "-" else "") ++ if m == 0 then "0.0" else (shortest m e).text

def floatText (x : Float) : String := (Double.ofFloat x).text

end PathPolicy.Number
