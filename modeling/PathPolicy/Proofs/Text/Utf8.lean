import PathPolicy.Text.Utf8
import Mathlib

/-! The strict decoder against the standard encoding of characters: it reads exactly the bytes
of an encoded text, and gives that text. -/

namespace PathPolicy.Text.Utf8

variable {b0 b1 b2 b3 : UInt8} {c : Char} {cs : List Char} {r bytes : List UInt8} {position : Nat}

/-- The bytes of characters one after another. -/
def encodeChars (cs : List Char) : List UInt8 := cs.flatMap String.utf8EncodeChar

theorem toNat_ofNat_of_valid {n : Nat} (h : n.isValidChar) : (Char.ofNat n).val.toNat = n := by
  exact (Char.toNat_ofNat n).trans (if_pos h)

theorem isContinuation_iff (b : UInt8) : isContinuation b = true ↔ 0x80 ≤ b.toNat ∧ b.toNat < 0xC0 := by
  simp [isContinuation, UInt8.le_iff_toNat_le, UInt8.lt_iff_toNat_lt]

theorem isSecond_iff (b0 b1 : UInt8) : isSecond b0 b1 = true ↔
    (0x80 ≤ b1.toNat ∧ b1.toNat < 0xC0) ∧ (b0.toNat = 0xE0 → 0xA0 ≤ b1.toNat) ∧
      (b0.toNat = 0xED → b1.toNat < 0xA0) ∧ (b0.toNat = 0xF0 → 0x90 ≤ b1.toNat) ∧
      (b0.toNat = 0xF4 → b1.toNat < 0x90) := by
  simp only [isSecond, Bool.and_eq_true, isContinuation_iff, Bool.not_eq_true', Bool.and_eq_false_iff,
    beq_eq_false_iff_ne, decide_eq_false_iff_not, UInt8.le_iff_toNat_le, UInt8.lt_iff_toNat_lt, ne_eq,
    ← UInt8.toNat_inj]
  simp
  omega

theorem encode_one (h : b0.toNat < 0x80) : String.utf8EncodeChar (Char.ofNat b0.toNat) = [b0] := by
  have hvalid : b0.toNat.isValidChar := .inl (by omega)
  rw [String.utf8EncodeChar.eq_1, toNat_ofNat_of_valid hvalid, if_pos (by omega)]
  simp

theorem encode_two (h0 : 0xC2 ≤ b0.toNat) (h0' : b0.toNat < 0xE0) (h1 : isContinuation b1 = true) :
    String.utf8EncodeChar (Char.ofNat (b0.toNat % 32 * 64 + low6 b1)) = [b0, b1] := by
  rw [isContinuation_iff] at h1
  have hvalid : (b0.toNat % 32 * 64 + low6 b1).isValidChar := by
    unfold low6
    exact .inl (by omega)
  rw [String.utf8EncodeChar.eq_1, toNat_ofNat_of_valid hvalid]
  unfold low6
  rw [if_neg (by omega), if_pos (by omega)]
  simp only [List.cons.injEq, and_true, ← UInt8.toNat_inj, UInt8.toNat_ofNat']
  omega

theorem encode_three (h0 : 0xE0 ≤ b0.toNat) (h0' : b0.toNat < 0xF0) (h1 : isSecond b0 b1 = true)
    (h2 : isContinuation b2 = true) :
    String.utf8EncodeChar (Char.ofNat ((b0.toNat % 16 * 64 + low6 b1) * 64 + low6 b2)) =
      [b0, b1, b2] := by
  rw [isContinuation_iff] at h2
  rw [isSecond_iff] at h1
  have hvalid : ((b0.toNat % 16 * 64 + low6 b1) * 64 + low6 b2).isValidChar := by
    unfold low6 Nat.isValidChar
    omega
  rw [String.utf8EncodeChar.eq_1, toNat_ofNat_of_valid hvalid]
  unfold low6
  rw [if_neg (by omega), if_neg (by omega), if_pos (by omega)]
  simp only [List.cons.injEq, and_true, ← UInt8.toNat_inj, UInt8.toNat_ofNat']
  omega

theorem encode_four (h0 : 0xF0 ≤ b0.toNat) (h0' : b0.toNat < 0xF5) (h1 : isSecond b0 b1 = true)
    (h2 : isContinuation b2 = true) (h3 : isContinuation b3 = true) :
    String.utf8EncodeChar
      (Char.ofNat (((b0.toNat % 8 * 64 + low6 b1) * 64 + low6 b2) * 64 + low6 b3)) =
        [b0, b1, b2, b3] := by
  rw [isContinuation_iff] at h2 h3
  rw [isSecond_iff] at h1
  have hvalid : (((b0.toNat % 8 * 64 + low6 b1) * 64 + low6 b2) * 64 + low6 b3).isValidChar := by
    unfold low6 Nat.isValidChar
    omega
  rw [String.utf8EncodeChar.eq_1, toNat_ofNat_of_valid hvalid]
  unfold low6
  rw [if_neg (by omega), if_neg (by omega), if_neg (by omega)]
  simp only [List.cons.injEq, and_true, ← UInt8.toNat_inj, UInt8.toNat_ofNat']
  omega

/-! How the bytes of each form are decoded. -/

section

variable {chars : List Char}

theorem decodeFrom_one (h : b0.toNat < 0x80) : decodeFrom position chars (b0 :: r) =
    decodeFrom (position + 1) (Char.ofNat b0.toNat :: chars) r := by
  rw [decodeFrom.eq_def]
  exact if_pos (UInt8.lt_iff_toNat_lt.2 h)

theorem decodeFrom_two (h0 : 0xC2 ≤ b0.toNat) (h0' : b0.toNat < 0xE0)
    (h1 : isContinuation b1 = true) : decodeFrom position chars (b0 :: b1 :: r) =
      decodeFrom (position + 2) (Char.ofNat (b0.toNat % 32 * 64 + low6 b1) :: chars) r := by
  rw [decodeFrom.eq_def]
  simp only [UInt8.lt_iff_toNat_lt, UInt8.toNat_ofNat, h1, if_true]
  rw [if_neg (by omega), if_neg (by omega), if_pos (by omega)]

theorem decodeFrom_three (h0 : 0xE0 ≤ b0.toNat) (h0' : b0.toNat < 0xF0)
    (h1 : isSecond b0 b1 = true) (h2 : isContinuation b2 = true) :
    decodeFrom position chars (b0 :: b1 :: b2 :: r) =
      decodeFrom (position + 3)
        (Char.ofNat ((b0.toNat % 16 * 64 + low6 b1) * 64 + low6 b2) :: chars) r := by
  rw [decodeFrom.eq_def]
  simp only [UInt8.lt_iff_toNat_lt, UInt8.toNat_ofNat, h1, h2, Bool.not_true, Bool.false_eq_true,
    if_false]
  rw [if_neg (by omega), if_neg (by omega), if_neg (by omega), if_pos (by omega),
    if_pos (by omega)]

theorem decodeFrom_four (h0 : 0xF0 ≤ b0.toNat) (h0' : b0.toNat < 0xF5)
    (h1 : isSecond b0 b1 = true) (h2 : isContinuation b2 = true) (h3 : isContinuation b3 = true) :
    decodeFrom position chars (b0 :: b1 :: b2 :: b3 :: r) =
      decodeFrom (position + 4)
        (Char.ofNat (((b0.toNat % 8 * 64 + low6 b1) * 64 + low6 b2) * 64 + low6 b3) :: chars) r := by
  rw [decodeFrom.eq_def]
  simp only [UInt8.lt_iff_toNat_lt, UInt8.toNat_ofNat, h1, h2, h3, Bool.not_true,
    Bool.false_eq_true, if_false]
  rw [if_neg (by omega), if_neg (by omega), if_neg (by omega), if_pos (by omega),
    if_neg (by omega)]

end

theorem encodeChars_cons (c : Char) (cs : List Char) :
    encodeChars (c :: cs) = String.utf8EncodeChar c ++ encodeChars cs := rfl

/-- One more character was decoded from its bytes. -/
theorem encodeChars_of_step {chars : List Char} {form : List UInt8}
    (hform : String.utf8EncodeChar c = form)
    (h : ∃ rest, cs = (c :: chars).reverse ++ rest ∧ r = encodeChars rest) :
    ∃ rest, cs = chars.reverse ++ rest ∧ form ++ r = encodeChars rest := by
  obtain ⟨rest, rfl, rfl⟩ := h
  exact ⟨c :: rest, by simp, by rw [encodeChars_cons, hform]⟩

/-- What was decoded is an encoded text. -/
theorem encodeChars_of_decodeFrom {chars : List Char}
    (h : decodeFrom position chars bytes = .ok cs) :
    ∃ rest, cs = chars.reverse ++ rest ∧ bytes = encodeChars rest := by
  fun_induction decodeFrom position chars bytes with
  | case1 position chars => exact ⟨[], by simpa using h.symm, rfl⟩
  | case2 position chars b0 r h0 ih =>
    exact encodeChars_of_step (encode_one (UInt8.lt_iff_toNat_lt.1 h0)) (ih h)
  | case5 position chars b0 h0 h0' h0'' b1 r h1 ih =>
    simp only [UInt8.lt_iff_toNat_lt, UInt8.toNat_ofNat] at h0 h0' h0''
    exact encodeChars_of_step (encode_two (by omega) (by omega) h1) (ih h)
  | case11 position chars b0 h0 h0' h0'' h0₃ b1 h1 b2 r h2 h0₄ code ih =>
    simp only [UInt8.lt_iff_toNat_lt, UInt8.toNat_ofNat] at h0 h0' h0'' h0₃ h0₄
    exact encodeChars_of_step
      (encode_three (by omega) (by omega) (by simpa using h1) (by simpa using h2)) (ih h)
  | case14 position chars b0 h0 h0' h0'' h0₃ b1 h1 b2 h2 h0₄ b3 r h3 code ih =>
    simp only [UInt8.lt_iff_toNat_lt, UInt8.toNat_ofNat] at h0 h0' h0'' h0₃ h0₄
    exact encodeChars_of_step
      (encode_four (by omega) (by omega) (by simpa using h1) (by simpa using h2) (by simpa using h3))
      (ih h)
  | _ => cases h

theorem isValidChar_toNat (c : Char) : c.val.toNat.isValidChar := c.valid

/-- A byte after the first. -/
theorem toNat_low (n : Nat) : (UInt8.ofNat (n % 64 + 128)).toNat = n % 64 + 128 := by
  rw [UInt8.toNat_ofNat']
  omega

section

variable {n : Nat} {chars : List Char}

/-! The bytes of a code point, by how large it is. -/

theorem decodeFrom_upTo7F (h : n ≤ 0x7F) : decodeFrom position chars (UInt8.ofNat n :: r) =
    decodeFrom (position + 1) (Char.ofNat n :: chars) r := by
  have h0 : (UInt8.ofNat n).toNat = n := by
    rw [UInt8.toNat_ofNat']
    omega
  rw [decodeFrom_one (by omega), h0]

theorem decodeFrom_upTo7FF (h : 0x7F < n) (h' : n ≤ 0x7FF) :
    decodeFrom position chars
      (UInt8.ofNat (n / 64 % 32 + 192) :: UInt8.ofNat (n % 64 + 128) :: r) =
        decodeFrom (position + 2) (Char.ofNat n :: chars) r := by
  have h0 : (UInt8.ofNat (n / 64 % 32 + 192)).toNat = n / 64 + 192 := by
    rw [UInt8.toNat_ofNat']
    omega
  have h1 := toNat_low n
  generalize UInt8.ofNat (n / 64 % 32 + 192) = b0 at h0
  generalize UInt8.ofNat (n % 64 + 128) = b1 at h1
  have hsecond : isContinuation b1 = true := by
    rw [isContinuation_iff]
    omega
  have hcode : b0.toNat % 32 * 64 + low6 b1 = n := by
    unfold low6
    omega
  rw [decodeFrom_two (by omega) (by omega) hsecond, hcode]

theorem decodeFrom_upToFFFF (h : 0x7FF < n) (h' : n ≤ 0xFFFF) (hvalid : n < 0xD800 ∨ 0xDFFF < n) :
    decodeFrom position chars (UInt8.ofNat (n / 4096 % 16 + 224) ::
      UInt8.ofNat (n / 64 % 64 + 128) :: UInt8.ofNat (n % 64 + 128) :: r) =
        decodeFrom (position + 3) (Char.ofNat n :: chars) r := by
  have h0 : (UInt8.ofNat (n / 4096 % 16 + 224)).toNat = n / 4096 + 224 := by
    rw [UInt8.toNat_ofNat']
    omega
  have h1 := toNat_low (n / 64)
  have h2 := toNat_low n
  generalize UInt8.ofNat (n / 4096 % 16 + 224) = b0 at h0
  generalize UInt8.ofNat (n / 64 % 64 + 128) = b1 at h1
  generalize UInt8.ofNat (n % 64 + 128) = b2 at h2
  have hsecond : isSecond b0 b1 = true := by
    rw [isSecond_iff]
    omega
  have hthird : isContinuation b2 = true := by
    rw [isContinuation_iff]
    omega
  have hcode : (b0.toNat % 16 * 64 + low6 b1) * 64 + low6 b2 = n := by
    unfold low6
    omega
  rw [decodeFrom_three (by omega) (by omega) hsecond hthird, hcode]

theorem decodeFrom_upTo10FFFF (h : 0xFFFF < n) (h' : n < 0x110000) :
    decodeFrom position chars (UInt8.ofNat (n / 262144 % 8 + 240) ::
      UInt8.ofNat (n / 4096 % 64 + 128) :: UInt8.ofNat (n / 64 % 64 + 128) ::
        UInt8.ofNat (n % 64 + 128) :: r) =
          decodeFrom (position + 4) (Char.ofNat n :: chars) r := by
  have h0 : (UInt8.ofNat (n / 262144 % 8 + 240)).toNat = n / 262144 + 240 := by
    rw [UInt8.toNat_ofNat']
    omega
  have h1 := toNat_low (n / 4096)
  have h2 := toNat_low (n / 64)
  have h3 := toNat_low n
  generalize UInt8.ofNat (n / 262144 % 8 + 240) = b0 at h0
  generalize UInt8.ofNat (n / 4096 % 64 + 128) = b1 at h1
  generalize UInt8.ofNat (n / 64 % 64 + 128) = b2 at h2
  generalize UInt8.ofNat (n % 64 + 128) = b3 at h3
  have hsecond : isSecond b0 b1 = true := by
    rw [isSecond_iff]
    omega
  have hthird : isContinuation b2 = true := by
    rw [isContinuation_iff]
    omega
  have hfourth : isContinuation b3 = true := by
    rw [isContinuation_iff]
    omega
  have hcode : ((b0.toNat % 8 * 64 + low6 b1) * 64 + low6 b2) * 64 + low6 b3 = n := by
    unfold low6
    omega
  rw [decodeFrom_four (by omega) (by omega) hsecond hthird hfourth, hcode]

end

/-- The bytes of a character are decoded as it. -/
theorem decodeFrom_encode (position : Nat) (chars : List Char) (c : Char) (r : List UInt8) :
    ∃ next, decodeFrom position chars (String.utf8EncodeChar c ++ r) =
      decodeFrom next (c :: chars) r := by
  have hvalid := isValidChar_toNat c
  have hc : Char.ofNat c.val.toNat = c := Char.ofNat_toNat c
  unfold Nat.isValidChar at hvalid
  rw [String.utf8EncodeChar.eq_1]
  generalize c.val.toNat = n at hvalid hc
  subst hc
  split_ifs with hone htwo hthree
  · exact ⟨position + 1, decodeFrom_upTo7F hone⟩
  · exact ⟨position + 2, decodeFrom_upTo7FF (by omega) htwo⟩
  · exact ⟨position + 3, decodeFrom_upToFFFF (by omega) hthree (by omega)⟩
  · exact ⟨position + 4, decodeFrom_upTo10FFFF (by omega) (by omega)⟩

theorem decodeFrom_encodeChars (position : Nat) (chars cs : List Char) :
    decodeFrom position chars (encodeChars cs) = .ok (chars.reverse ++ cs) := by
  induction cs generalizing position chars with
  | nil => simp [encodeChars, decodeFrom]
  | cons c cs ih =>
    obtain ⟨next, hnext⟩ := decodeFrom_encode position chars c (encodeChars cs)
    rw [encodeChars_cons, hnext, ih, List.reverse_cons, List.append_assoc, List.singleton_append]

/-- Exactly the encoded texts are decoded. -/
theorem decode_eq_ok_iff : decode bytes = .ok cs ↔ bytes = encodeChars cs := by
  constructor
  · intro h
    obtain ⟨rest, hrest, hbytes⟩ := encodeChars_of_decodeFrom h
    rw [hbytes, hrest]
    rfl
  · rintro rfl
    exact decodeFrom_encodeChars 0 [] cs

theorem encodeChars_injective {cs' : List Char} (h : encodeChars cs = encodeChars cs') :
    cs = cs' :=
  Except.ok.inj ((decode_eq_ok_iff.2 rfl).symm.trans (decode_eq_ok_iff.2 h))

end PathPolicy.Text.Utf8
