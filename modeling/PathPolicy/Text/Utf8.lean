/-! Strict UTF-8: no overlong forms, no encoded surrogates, nothing above
U+10FFFF. A fault names the bytes that cannot be read and why. -/

namespace PathPolicy.Text.Utf8

inductive Reason where
  | invalidStart
  | invalidContinuation
  | unexpectedEnd
  deriving Repr, DecidableEq

/-- `count` bytes from `position` on, the first of which is `byte`. -/
structure Fault where
  reason : Reason
  byte : UInt8
  position : Nat
  count : Nat
  deriving Repr, DecidableEq

def isContinuation (b : UInt8) : Bool := 0x80 ≤ b && b < 0xC0

/-- The second byte of a longer form keeps out overlong forms, surrogates and
code points that are too large. -/
def isSecond (b0 b1 : UInt8) : Bool :=
  isContinuation b1 &&
    !(b0 == 0xE0 && b1 < 0xA0) && !(b0 == 0xED && 0xA0 ≤ b1) &&
    !(b0 == 0xF0 && b1 < 0x90) && !(b0 == 0xF4 && 0x90 ≤ b1)

def low6 (b : UInt8) : Nat := b.toNat % 64

/-- `chars` is what was read so far, last character first. -/
def decodeFrom (position : Nat) (chars : List Char) : List UInt8 → Except Fault (List Char)
  | [] => .ok chars.reverse
  | b0 :: r0 =>
    if b0 < 0x80 then decodeFrom (position + 1) (Char.ofNat b0.toNat :: chars) r0
    else if b0 < 0xC2 then .error ⟨.invalidStart, b0, position, 1⟩
    else if b0 < 0xE0 then
      match r0 with
      | [] => .error ⟨.unexpectedEnd, b0, position, 1⟩
      | b1 :: r1 =>
        if isContinuation b1 then
          decodeFrom (position + 2) (Char.ofNat (b0.toNat % 32 * 64 + low6 b1) :: chars) r1
        else .error ⟨.invalidContinuation, b0, position, 1⟩
    else if b0 < 0xF5 then
      match r0 with
      | [] => .error ⟨.unexpectedEnd, b0, position, 1⟩
      | b1 :: r1 =>
        if !isSecond b0 b1 then .error ⟨.invalidContinuation, b0, position, 1⟩
        else
          match r1 with
          | [] => .error ⟨.unexpectedEnd, b0, position, 2⟩
          | b2 :: r2 =>
            if !isContinuation b2 then .error ⟨.invalidContinuation, b0, position, 2⟩
            else if b0 < 0xF0 then
              let code := (b0.toNat % 16 * 64 + low6 b1) * 64 + low6 b2
              decodeFrom (position + 3) (Char.ofNat code :: chars) r2
            else
              match r2 with
              | [] => .error ⟨.unexpectedEnd, b0, position, 3⟩
              | b3 :: r3 =>
                if !isContinuation b3 then .error ⟨.invalidContinuation, b0, position, 3⟩
                else
                  let code := ((b0.toNat % 8 * 64 + low6 b1) * 64 + low6 b2) * 64 + low6 b3
                  decodeFrom (position + 4) (Char.ofNat code :: chars) r3
    else .error ⟨.invalidStart, b0, position, 1⟩

def decode (bytes : List UInt8) : Except Fault (List Char) := decodeFrom 0 [] bytes

def encode (s : String) : List UInt8 := s.toUTF8.toList

end PathPolicy.Text.Utf8
