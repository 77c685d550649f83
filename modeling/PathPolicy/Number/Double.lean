/-! A double taken apart exactly. -/

namespace PathPolicy.Number

/-- A finite double is `mantissa * 2 ^ exponent`, with its sign kept for zero too. -/
inductive Double where
  | nan
  | infinite (negative : Bool)
  | finite (negative : Bool) (mantissa : Nat) (exponent : Int)
  deriving Repr, DecidableEq

namespace Double

def ofFloat (x : Float) : Double :=
  let bits : Nat := x.toBits.toNat
  let negative := bits >>> 63 == 1
  let biased : Nat := (bits >>> 52) % 0x800
  let fraction : Nat := bits % 0x10000000000000
  if biased == 2047 then
    if fraction == 0 then .infinite negative else .nan
  else if biased == 0 then .finite negative fraction (-1074)
  else .finite negative (0x10000000000000 + fraction) ((biased : Int) - 1075)

/-- The integer that a double is equal to. -/
def toInt? : Double → Option Int
  | .finite negative m e =>
    let size? :=
      if 0 ≤ e then some (m <<< e.toNat)
      else if m % (1 <<< (-e).toNat) == 0 then some (m >>> (-e).toNat)
      else none
    size?.map fun size => if negative then -(size : Int) else size
  | _ => none

/-- Below an integer, read in exact arithmetic. -/
def ltInt (d : Double) (n : Int) : Bool :=
  match d with
  | .nan => false
  | .infinite negative => negative
  | .finite negative m e =>
    let size : Int := if negative then -m else m
    if 0 ≤ e then size <<< e.toNat < n else size < n <<< (-e).toNat

/-- Above an integer, read in exact arithmetic. -/
def gtInt (d : Double) (n : Int) : Bool :=
  match d with
  | .nan => false
  | .infinite negative => !negative
  | .finite negative m e =>
    let size : Int := if negative then -m else m
    if 0 ≤ e then n < size <<< e.toNat else n <<< (-e).toNat < size

end Double

end PathPolicy.Number
