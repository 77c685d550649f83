import PathPolicy.Regex.Flags
import Mathlib.Tactic.Ring
import Mathlib.Tactic.Positivity

/-! Flag words bit by bit: adding or removing a flag changes what the word says about that flag
only. -/

namespace PathPolicy.Regex

/-! Numbers. -/

/-- Lower bits do not see a change. -/
theorem bit_add_mul_of_lt {v e : Int} {n m : Nat} (h : m < n) :
    (v + e * 2 ^ n) / 2 ^ m % 2 = v / 2 ^ m % 2 := by
  obtain ⟨k, rfl⟩ := Nat.exists_eq_add_of_lt h
  rw [show e * 2 ^ (m + k + 1) = e * 2 ^ k * 2 * 2 ^ m by ring,
    Int.add_mul_ediv_right _ _ (by positivity), Int.add_mul_emod_self_right]

/-- Higher bits do not see a change that is not carried on. -/
theorem bit_add_mul {v e : Int} {n m : Nat} (h : (v / 2 ^ n + e) / 2 = v / 2 ^ n / 2)
    (hne : m ≠ n) : (v + e * 2 ^ n) / 2 ^ m % 2 = v / 2 ^ m % 2 := by
  rcases Nat.lt_or_gt_of_ne hne with hlt | hlt
  · exact bit_add_mul_of_lt hlt
  · obtain ⟨k, rfl⟩ := Nat.exists_eq_add_of_lt hlt
    have hsplit (x : Int) : x / 2 ^ (n + k + 1) = x / 2 ^ n / 2 / 2 ^ k := by
      rw [Int.ediv_ediv_of_nonneg (by positivity), Int.ediv_ediv_of_nonneg (by positivity)]
      ring_nf
    rw [hsplit, hsplit, Int.add_mul_ediv_right _ _ (by positivity), h]

theorem bit_add_two_pow {v : Int} {n m : Nat} (h : ¬v / 2 ^ n % 2 = 1) :
    (v + 2 ^ n) / 2 ^ m % 2 = 1 ↔ v / 2 ^ m % 2 = 1 ∨ m = n := by
  have hsame := bit_add_mul (v := v) (e := 1) (n := n) (m := m) (by omega)
  rw [one_mul] at hsame
  by_cases hm : m = n
  · subst hm
    rw [Int.add_ediv_of_dvd_right (dvd_refl _), Int.ediv_self (by positivity)]
    omega
  · rw [hsame hm, or_iff_left hm]

theorem bit_sub_two_pow {v : Int} {n m : Nat} (h : v / 2 ^ n % 2 = 1) :
    (v - 2 ^ n) / 2 ^ m % 2 = 1 ↔ v / 2 ^ m % 2 = 1 ∧ m ≠ n := by
  have hsame := bit_add_mul (v := v) (e := -1) (n := n) (m := m) (by omega)
  rw [neg_one_mul, ← sub_eq_add_neg] at hsame
  by_cases hm : m = n
  · subst hm
    rw [Int.sub_ediv_of_dvd _ (dvd_refl _), Int.ediv_self (by positivity)]
    omega
  · rw [hsame hm, and_iff_left hm]

/-! Words. -/

theorem Flag.bit_inj {f g : Flag} : f.bit = g.bit ↔ f = g := by
  cases f <;> cases g <;> simp [Flag.bit]

namespace Flags

variable {w : Flags} {f g : Flag} {on : List Flag}

theorem has_iff : w.has f = true ↔ (w : Int) / 2 ^ f.bit % 2 = 1 := by
  simp [has, Int.shiftRight_eq_div_pow]

theorem value_eq (f : Flag) : f.value = 2 ^ f.bit := by
  simp [Flag.value, Nat.shiftLeft_eq]

theorem has_add : (w.add f).has g = true ↔ w.has g = true ∨ g = f := by
  unfold add
  split
  · next h => exact ⟨.inl, fun hg => hg.elim id fun e => e ▸ h⟩
  · next h =>
    rw [has_iff] at h
    rw [has_iff, has_iff, value_eq, ← Flag.bit_inj]
    exact bit_add_two_pow h

theorem has_remove : (w.remove f).has g = true ↔ w.has g = true ∧ g ≠ f := by
  unfold remove
  split
  · next h =>
    rw [has_iff] at h
    rw [has_iff, has_iff, value_eq, ne_eq, ← Flag.bit_inj]
    exact bit_sub_two_pow h
  · next h => exact ⟨fun hg => ⟨hg, fun e => h (e ▸ hg)⟩, And.left⟩

theorem has_addAll : (w.addAll on).has g = true ↔ w.has g = true ∨ g ∈ on := by
  induction on generalizing w with
  | nil => simp [addAll]
  | cons f on ih =>
    have hstep : w.addAll (f :: on) = (w.add f).addAll on := rfl
    rw [hstep, ih, has_add, List.mem_cons, or_assoc]

theorem has_addAll_eq : (w.addAll on).has g = (w.has g || on.contains g) := by
  rw [Bool.eq_iff_iff, Bool.or_eq_true, has_addAll, List.contains_iff_mem]

theorem has_addAll_congr {v : Flags} (h : v.has f = w.has f) :
    (v.addAll on).has f = (w.addAll on).has f := by
  rw [has_addAll_eq, has_addAll_eq, h]

theorem addAll_append (w : Flags) (on more : List Flag) :
    w.addAll (on ++ more) = (w.addAll on).addAll more := List.foldl_append

theorem addAll_of_has (h : ∀ f ∈ on, w.has f = true) : w.addAll on = w := by
  induction on with
  | nil => rfl
  | cons f on ih =>
    obtain ⟨hf, hon⟩ := List.forall_mem_cons.1 h
    have hadd : w.add f = w := if_pos hf
    rw [show w.addAll (f :: on) = (w.add f).addAll on from rfl, hadd, ih hon]

theorem remove_of_not_has (h : ¬w.has f = true) : w.remove f = w := if_neg h

theorem add_remove (h : w.has f = true) : (w.remove f).add f = w := by
  have hno : ¬(w.remove f).has f = true := fun hf => (has_remove.1 hf).2 rfl
  rw [add, if_neg hno, remove, if_pos h]
  exact Int.sub_add_cancel w f.value

theorem addAll_eq_add (h : ∀ g ∈ on, g = f ∨ w.has g = true) (hf : f ∈ on) :
    w.addAll on = w.add f := by
  induction on with
  | nil => cases hf
  | cons g on ih =>
    obtain ⟨hg, hon⟩ := List.forall_mem_cons.1 h
    by_cases hgf : g = f
    · subst hgf
      exact addAll_of_has fun x hx => has_add.2 (hon x hx).symm
    · have hadd : w.add g = w := if_pos (hg.resolve_left hgf)
      rw [show w.addAll (g :: on) = (w.add g).addAll on from rfl, hadd]
      exact ih hon ((List.mem_cons.1 hf).resolve_left (Ne.symm hgf))

/-- No bit above the ninth is set where one below it is. -/
theorem known_add (h : w.known = w) : (w.add f).known = w.add f := by
  unfold add
  split
  · exact h
  · next hno =>
    have hstep (v : Int) (hv : v % 0x200 = v) (hbit : ¬v / 2 ^ f.bit % 2 = 1) :
        (v + 2 ^ f.bit) % 0x200 = v + 2 ^ f.bit := by
      cases f <;> simp only [Flag.bit] at hbit ⊢ <;> omega
    rw [value_eq]
    exact hstep w h (mt has_iff.2 hno)

theorem known_addAll (h : w.known = w) : (w.addAll on).known = w.addAll on := by
  induction on generalizing w with
  | nil => exact h
  | cons f on ih => exact ih (known_add h)

theorem has_known : w.known.has g = w.has g := by
  rw [Bool.eq_iff_iff, has_iff, has_iff]
  have hbit : g.bit < 9 := by cases g <;> decide
  have hlow := bit_add_mul_of_lt (v := (w : Int) % 2 ^ 9) (e := w / 2 ^ 9) hbit
  rw [mul_comm, Int.emod_add_mul_ediv] at hlow
  exact iff_of_eq (congrArg (· = 1) hlow.symm)

/-! Words that are made of flags alone. -/

/-- The bitwise or of flags. -/
def orAll : List Flag → Nat
  | [] => 0
  | f :: fs => 2 ^ f.bit ||| orAll fs

theorem testBit_orAll {fs : List Flag} {n : Nat} :
    (orAll fs).testBit n = true ↔ ∃ f ∈ fs, f.bit = n := by
  induction fs with
  | nil => simp [orAll]
  | cons f fs ih =>
    rw [orAll, Nat.testBit_or, Bool.or_eq_true, Nat.testBit_two_pow, decide_eq_true_eq, ih,
      List.exists_mem_cons_iff]

theorem orAll_append (fs gs : List Flag) : orAll (fs ++ gs) = orAll fs ||| orAll gs := by
  induction fs with
  | nil => simp [orAll]
  | cons f fs ih => rw [List.cons_append, orAll, ih, orAll, Nat.or_assoc]

theorem orAll_eq_iff {fs gs : List Flag} : orAll fs = orAll gs ↔ ∀ f, f ∈ fs ↔ f ∈ gs := by
  have hmem (fs : List Flag) (f : Flag) : (orAll fs).testBit f.bit = true ↔ f ∈ fs := by
    simp [testBit_orAll, Flag.bit_inj]
  constructor
  · intro h f
    rw [← hmem, h, hmem]
  · intro h
    refine Nat.eq_of_testBit_eq fun n => Bool.eq_iff_iff.2 ?_
    simp only [testBit_orAll, h]

theorem has_natCast {n : Nat} : has n f = true ↔ n.testBit f.bit = true := by
  rw [has_iff, Nat.testBit_eq_decide_div_mod_eq, decide_eq_true_eq]
  norm_cast

/-- A flag that is not there yet is added, and it meets no bit of the word. -/
theorem add_natCast (n : Nat) (f : Flag) : add n f = ((n ||| 2 ^ f.bit : Nat) : Int) := by
  have hor (m : Nat) : (n ||| 2 ^ f.bit).testBit m = true ↔ n.testBit m = true ∨ m = f.bit := by
    rw [Nat.testBit_or, Bool.or_eq_true, Nat.testBit_two_pow, decide_eq_true_eq,
      eq_comm (a := f.bit)]
  unfold add
  split
  · next h =>
    rw [Int.natCast_inj]
    refine Nat.eq_of_testBit_eq fun m => Bool.eq_iff_iff.2 ?_
    rw [hor]
    exact ⟨.inl, fun hm => hm.elim id fun e => e ▸ has_natCast.1 h⟩
  · next h =>
    have hsum : (n : Int) + f.value = ((n + 2 ^ f.bit : Nat) : Int) := by
      rw [value_eq]
      norm_cast
    rw [hsum, Int.natCast_inj]
    refine Nat.eq_of_testBit_eq fun m => Bool.eq_iff_iff.2 ?_
    have hbit := bit_add_two_pow (m := m) (mt has_iff.2 h)
    rw [hor, Nat.testBit_eq_decide_div_mod_eq, Nat.testBit_eq_decide_div_mod_eq,
      decide_eq_true_eq, decide_eq_true_eq]
    exact_mod_cast hbit

theorem addAll_natCast (n : Nat) (fs : List Flag) :
    addAll n fs = ((n ||| orAll fs : Nat) : Int) := by
  induction fs generalizing n with
  | nil => simp [addAll, orAll]
  | cons f fs ih =>
    rw [show addAll n (f :: fs) = (add n f).addAll fs from rfl, add_natCast, ih, orAll,
      Nat.or_assoc]

theorem addAll_zero (fs : List Flag) : addAll 0 fs = (orAll fs : Int) := by
  simpa using addAll_natCast 0 fs

end Flags

end PathPolicy.Regex
