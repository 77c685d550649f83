import PathPolicy.Proofs.PolicyFile.Start
import PathPolicy.Proofs.Text.Lowering

/-! Texts of flags are read in lower case. No letter but the four, in either case, becomes
the letter of a flag by that. -/

namespace PathPolicy.Schema.Entry

/-- Letters of flags in either case. -/
def flagOfAnyCase? (c : Char) : Option Regex.Flag :=
  match c with
  | 'i' | 'I' => some .ignoreCase
  | 'm' | 'M' => some .multiline
  | 's' | 'S' => some .dotAll
  | 'x' | 'X' => some .verbose
  | _ => none

theorem ascii_of_flagOfLetter? {c : Char} {f : Regex.Flag} (h : flagOfLetter? c = some f) :
    c.toNat < 0x80 := by
  unfold flagOfLetter? at h
  split at h <;> simp at h ⊢

theorem ascii_of_flagOfAnyCase? {c : Char} {f : Regex.Flag} (h : flagOfAnyCase? c = some f) :
    c.toNat < 0x80 := by
  unfold flagOfAnyCase? at h
  split at h <;> simp at h ⊢

theorem flagOfLetter?_of_ascii : ∀ n < 0x80,
    flagOfLetter? (Char.ofNat (Text.lowerCode n)) = flagOfAnyCase? (Char.ofNat n) := by
  decide +kernel

theorem flagOfLetter?_lowerCode {c : Char} (hc : c.toNat ≠ 0x130) :
    flagOfLetter? (Char.ofNat (Text.lowerCode c.toNat)) = flagOfAnyCase? c := by
  by_cases hascii : c.toNat < 0x80
  · rw [flagOfLetter?_of_ascii _ hascii, Char.ofNat_toNat]
  · have hany : flagOfAnyCase? c = none := by
      cases h : flagOfAnyCase? c with
      | none => rfl
      | some f => exact absurd (ascii_of_flagOfAnyCase? h) hascii
    rw [hany]
    cases h : flagOfLetter? (Char.ofNat (Text.lowerCode c.toNat)) with
    | none => rfl
    | some f =>
      have hlt := ascii_of_flagOfLetter? h
      rw [Char.toNat_ofNat] at hlt
      split at hlt
      · rcases Text.ascii_of_lowerCode hlt with hn | hn | hn
        · exact absurd hn hascii
        · exact absurd hn hc
        · have hkelvin : flagOfLetter? (Char.ofNat (Text.lowerCode 0x212A)) = none := by
            decide +kernel
          rw [hn, hkelvin] at h
          cases h
      · rename_i hv
        rw [Char.ofNat, dif_neg hv] at h
        cases h

/-- In lower case a letter of a flag stands alone, and anything else leaves a character
that is none. -/
theorem flags_lowerAt (before after : List Char) (c : Char) :
    (∃ f, flagOfAnyCase? c = some f ∧
      (Text.lowerAt before c after).map flagOfLetter? = [some f]) ∨
    flagOfAnyCase? c = none ∧ none ∈ (Text.lowerAt before c after).map flagOfLetter? := by
  unfold Text.lowerAt
  split
  · rename_i hsigma
    right
    have hc : flagOfAnyCase? c = none := by
      rw [← Char.ofNat_toNat c, hsigma]
      decide
    refine ⟨hc, ?_⟩
    split <;> decide
  · split
    · rename_i hdot
      right
      rw [← Char.ofNat_toNat c, hdot]
      decide
    · rename_i hdot
      have hflag := flagOfLetter?_lowerCode hdot
      cases h : flagOfAnyCase? c with
      | some f => simp [hflag, h]
      | none => simp [hflag, h]

theorem flags_lower_iff {s : String} {fs : List Regex.Flag} :
    (Text.lower s).toList.map flagOfLetter? = fs.map some ↔
      s.toList.map flagOfAnyCase? = fs.map some := by
  unfold Text.lower Text.lowerChars
  rw [String.toList_ofList]
  generalize ([] : List Char) = before
  induction s.toList generalizing before fs with
  | nil => rfl
  | cons c rest ih =>
    rw [Text.lowerFrom, List.map_append, List.map_cons]
    rcases flags_lowerAt before rest c with ⟨f, hc, hlower⟩ | ⟨hc, hlower⟩
    · rw [hlower, hc]
      cases fs with
      | nil => simp
      | cons g fs => simp [ih]
    · constructor
      · intro h
        have hnone := List.mem_append_left
          ((Text.lowerFrom (c :: before) rest).map flagOfLetter?) hlower
        rw [h] at hnone
        simp at hnone
      · intro h
        cases fs <;> simp [hc] at h

/-- Flags are a number, or letters in either case. -/
inductive FlagWord : Value → Regex.Flags → Prop
  | number (n : Int) : FlagWord (.int n) n
  | letters {s : String} {fs : List Regex.Flag} :
      s.toList.map flagOfAnyCase? = fs.map some → FlagWord (.str s) (Regex.Flags.addAll 0 fs)

theorem flagged_iff {v : Value} {w : Regex.Flags} : Flagged v w ↔ FlagWord v w := by
  constructor
  · intro h
    cases h with
    | number => exact .number _
    | letters h => exact .letters (flags_lower_iff.1 h)
  · intro h
    cases h with
    | number => exact .number _
    | letters h => exact .letters (flags_lower_iff.2 h)

end PathPolicy.Schema.Entry
