import PathPolicy.Text.Case
import Mathlib

/-! Lower-casing and ASCII. Two letters from outside become ASCII letters, one of them
together with a combining dot. -/

namespace PathPolicy.Text

/-- A run moves into ASCII from outside only if it is one of two single letters. -/
theorem runs_into_ascii : ∀ r ∈ lowerRuns, r.last < 0x80 ∨
    0x80 ≤ r.first ∧ 0x80 ≤ (r.first : Int) + r.shift ∨
    r.first = r.last ∧ (r.first = 0x130 ∨ r.first = 0x212A) := by
  decide +kernel

/-- The two letters are the capital I with a dot and the kelvin sign. -/
theorem ascii_of_lowerCode {n : Nat} (h : lowerCode n < 0x80) :
    n < 0x80 ∨ n = 0x130 ∨ n = 0x212A := by
  unfold lowerCode CaseRun.mapAll at h
  split at h
  · rename_i r hr
    have hcovers : r.covers n = true := by simpa using List.find?_some hr
    simp only [CaseRun.covers, Bool.and_eq_true, decide_eq_true_eq] at hcovers
    obtain ⟨⟨hfirst, hlast⟩, -⟩ := hcovers
    rcases runs_into_ascii r (List.mem_of_find?_eq_some hr) with hr | ⟨-, hr⟩ | ⟨hone, hr⟩
    · left
      omega
    · simp only [CaseRun.move] at h
      omega
    · omega
  · exact .inl h

/-! Within ASCII. -/

theorem lowerCode_of_ascii : ∀ n < 0x80, Char.ofNat (lowerCode n) = (Char.ofNat n).toLower := by
  decide +kernel

theorem ascii_of_toLower {c : Char} (h : c.toLower.toNat < 0x80) : c.toNat < 0x80 := by
  unfold Char.toLower at h
  split at h
  · next hletter =>
    have hlast : c.toNat ≤ 'Z'.toNat := hletter.2
    exact Nat.lt_of_le_of_lt hlast (by decide)
  · exact h

/-- ASCII letters are lowered one by one, wherever they stand. -/
theorem lowerChars_of_ascii {cs : List Char} (h : ∀ c ∈ cs, c.toNat < 0x80) :
    lowerChars cs = cs.map Char.toLower := by
  unfold lowerChars
  generalize ([] : List Char) = before
  induction cs generalizing before with
  | nil => rfl
  | cons c rest ih =>
    obtain ⟨hc, hrest⟩ := List.forall_mem_cons.1 h
    have hone : lowerAt before c rest = [c.toLower] := by
      rw [lowerAt, if_neg (by omega), if_neg (by omega), lowerCode_of_ascii _ hc,
        Char.ofNat_toNat]
    rw [lowerFrom, hone, ih hrest, List.map_cons]
    rfl

end PathPolicy.Text
