/-! Base64 text. Characters outside the alphabet are passed over, and the padding ends
the text once a group is complete. -/

namespace PathPolicy.Text.Base64

def digit? (c : Char) : Option Nat :=
  let n := c.toNat
  if 0x41 ≤ n && n ≤ 0x5A then some (n - 0x41)
  else if 0x61 ≤ n && n ≤ 0x7A then some (n - 0x61 + 26)
  else if 0x30 ≤ n && n ≤ 0x39 then some (n - 0x30 + 52)
  else if c = '+' then some 62
  else if c = '/' then some 63
  else none

/-- A group that has been begun: its digits, last first, and the padding after them. -/
structure Group where
  digits : List Nat := []
  padding : Nat := 0

/-- The bytes of a group as far as its digits go. -/
def Group.bytes (g : Group) : List UInt8 :=
  match g.digits.reverse with
  | [a, b] => [UInt8.ofNat (a * 4 + b / 16)]
  | [a, b, c] => [UInt8.ofNat (a * 4 + b / 16), UInt8.ofNat (b % 16 * 16 + c / 4)]
  | [a, b, c, d] =>
    [UInt8.ofNat (a * 4 + b / 16), UInt8.ofNat (b % 16 * 16 + c / 4), UInt8.ofNat (c % 4 * 64 + d)]
  | _ => []

/-- Nothing if a group is left incomplete. -/
def decodeFrom? (g : Group) : List Char → Option (List UInt8)
  | [] => if g.digits.isEmpty then some [] else none
  | c :: rest =>
    if c = '=' then
      if 2 ≤ g.digits.length then
        if 4 ≤ g.digits.length + (g.padding + 1) then some g.bytes
        else decodeFrom? { g with padding := g.padding + 1 } rest
      else decodeFrom? g rest
    else
      match digit? c with
      | none => decodeFrom? g rest
      | some d =>
        let g : Group := { digits := d :: g.digits }
        if g.digits.length = 4 then (decodeFrom? {} rest).map (g.bytes ++ ·)
        else decodeFrom? g rest

def decode? (cs : List Char) : Option (List UInt8) := decodeFrom? {} cs

end PathPolicy.Text.Base64
