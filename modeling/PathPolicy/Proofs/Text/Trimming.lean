import PathPolicy.Proofs.Text.Lowering
import PathPolicy.Text.Blank

/-! White space and lower case. Lower-casing leads neither into white space nor out of it, so the
lower-case form of a text has white space around it exactly if the text has. -/

namespace PathPolicy.Text

variable {cs : List Char} {n : Nat}

theorem exists_range_of_holds {rs : Ranges} (h : rs.holds n = true) :
    ∃ b ∈ rs, b.1 ≤ n ∧ n ≤ b.2 := by
  induction rs with
  | nil => cases h
  | cons b rs ih =>
    unfold Ranges.holds at h
    split at h
    · cases h
    · next hlo =>
      rcases Bool.or_eq_true _ _ ▸ h with hhi | hrest
      · exact ⟨b, List.mem_cons_self .., by omega, of_decide_eq_true hhi⟩
      · obtain ⟨b', hb', hn⟩ := ih hrest
        exact ⟨b', List.mem_cons_of_mem _ hb', hn⟩

/-- Neither a run of capital letters nor what it is moved to has white space in it. -/
theorem runs_apart_from_blanks : ∀ r ∈ lowerRuns, ∀ b ∈ blankRanges,
    (r.last < b.1 ∨ b.2 < r.first) ∧
      ((r.last : Int) + r.shift < b.1 ∨ (b.2 : Int) < r.first + r.shift) := by
  decide +kernel

theorem holds_lowerCode (n : Nat) : blankRanges.holds (lowerCode n) = blankRanges.holds n := by
  unfold lowerCode CaseRun.mapAll
  split
  · next r hr =>
    have hmem := List.mem_of_find?_eq_some hr
    have hcovers : r.covers n = true := by simpa using List.find?_some hr
    simp only [CaseRun.covers, Bool.and_eq_true, decide_eq_true_eq] at hcovers
    obtain ⟨⟨hfirst, hlast⟩, -⟩ := hcovers
    have hfrom : blankRanges.holds n = false := by
      rw [Bool.eq_false_iff]
      intro hn
      obtain ⟨b, hb, hlo, hhi⟩ := exists_range_of_holds hn
      have hapart := (runs_apart_from_blanks r hmem b hb).1
      omega
    have hto : blankRanges.holds (r.move n) = false := by
      rw [Bool.eq_false_iff]
      intro hn
      obtain ⟨b, hb, hlo, hhi⟩ := exists_range_of_holds hn
      have hapart := (runs_apart_from_blanks r hmem b hb).2
      have hpositive : ∀ b ∈ blankRanges, 0 < b.1 := by decide
      have hb' := hpositive b hb
      simp only [CaseRun.move] at hlo hhi
      omega
    rw [hfrom, hto]
  · rfl

theorem isBlank_ofNat (n : Nat) : isBlank (Char.ofNat n) = blankRanges.holds n := by
  rw [isBlank, Char.toNat_ofNat]
  split
  · rfl
  · next hvalid =>
    -- no character has such a code, and white space is below all of them
    cases hn : blankRanges.holds n with
    | false => rfl
    | true =>
      obtain ⟨b, hb, -, hhi⟩ := exists_range_of_holds hn
      have hsmall : ∀ b ∈ blankRanges, b.2 < 0xD800 := by decide
      exact absurd (.inl (Nat.lt_of_le_of_lt hhi (hsmall b hb))) hvalid

/-- In lower case, a character begins and ends with white space if it is white space. -/
theorem lowerAt_ends (before after : List Char) (c : Char) :
    (lowerAt before c after).head?.map isBlank = some (isBlank c) ∧
      (lowerAt before c after).getLast?.map isBlank = some (isBlank c) := by
  unfold lowerAt
  split
  · next hsigma =>
    have hc : isBlank c = false := by
      rw [isBlank, hsigma]
      decide
    rw [hc]
    split <;> decide
  · split
    · next hdot =>
      have hc : isBlank c = false := by
        rw [isBlank, hdot]
        decide
      rw [hc]
      decide
    · have hc : isBlank (Char.ofNat (lowerCode c.toNat)) = isBlank c := by
        rw [isBlank_ofNat, holds_lowerCode, isBlank]
      simp [hc]

theorem head?_lowerFrom (before cs : List Char) :
    (lowerFrom before cs).head?.map isBlank = cs.head?.map isBlank := by
  cases cs with
  | nil => rfl
  | cons c after =>
    rw [lowerFrom, List.head?_append]
    have hends := (lowerAt_ends before after c).1
    cases h : (lowerAt before c after).head? with
    | none => simp [h] at hends
    | some d => simpa [h] using hends

theorem getLast?_lowerFrom (before cs : List Char) :
    (lowerFrom before cs).getLast?.map isBlank = cs.getLast?.map isBlank := by
  induction cs generalizing before with
  | nil => rfl
  | cons c after ih =>
    rw [lowerFrom, List.getLast?_append]
    cases after with
    | nil => simpa [lowerFrom] using (lowerAt_ends before [] c).2
    | cons d after =>
      have hrest := ih (c :: before)
      rw [List.getLast?_cons_cons, ← hrest]
      cases h : (lowerFrom (c :: before) (d :: after)).getLast? with
      | none => simp [h] at hrest
      | some e => rfl

/-- White space stands neither at the front nor at the end. -/
structure Trimmed (cs : List Char) : Prop where
  front : cs.head?.map isBlank ≠ some true
  back : cs.getLast?.map isBlank ≠ some true

theorem trimmed_lowerChars : Trimmed (lowerChars cs) ↔ Trimmed cs := by
  constructor
  · rintro ⟨hfront, hback⟩
    exact ⟨head?_lowerFrom [] cs ▸ hfront, getLast?_lowerFrom [] cs ▸ hback⟩
  · rintro ⟨hfront, hback⟩
    exact ⟨(head?_lowerFrom [] cs).symm ▸ hfront, (getLast?_lowerFrom [] cs).symm ▸ hback⟩

theorem trimChars_eq (cs : List Char) :
    trimChars cs = (cs.dropWhile isBlank).rdropWhile isBlank := rfl

theorem Trimmed.dropWhile_eq (h : Trimmed cs) : cs.dropWhile isBlank = cs := by
  cases cs with
  | nil => rfl
  | cons c rest =>
    have hc : isBlank c = false := by simpa using h.front
    exact List.dropWhile_cons_of_neg (by simp [hc])

theorem Trimmed.rdropWhile_eq (h : Trimmed cs) : cs.rdropWhile isBlank = cs := by
  rw [List.rdropWhile_eq_self_iff]
  intro hne hlast
  exact h.back (by simp [List.getLast?_eq_some_getLast hne, hlast])

theorem trimChars_of_trimmed (h : Trimmed cs) : trimChars cs = cs := by
  rw [trimChars_eq, h.dropWhile_eq, h.rdropWhile_eq]

theorem rdropWhile_append_of_pos {α : Type} {p : α → Bool} {l l' : List α}
    (h : ∀ a ∈ l', p a = true) : (l ++ l').rdropWhile p = l.rdropWhile p := by
  rw [List.rdropWhile, List.reverse_append, List.dropWhile_append_of_pos (by simpa using h),
    List.rdropWhile]

/-- White space around a text is trimmed away, and nothing of the text. -/
theorem trimChars_padded {front back : List Char} (hfront : ∀ c ∈ front, isBlank c = true)
    (hback : ∀ c ∈ back, isBlank c = true) (h : Trimmed cs) :
    trimChars (front ++ (cs ++ back)) = cs := by
  rw [trimChars_eq, List.dropWhile_append_of_pos hfront, List.dropWhile_append, h.dropWhile_eq]
  cases cs with
  | nil =>
    rw [List.isEmpty_nil, if_pos rfl, List.dropWhile_eq_nil_iff.2 hback]
    rfl
  | cons c rest =>
    rw [List.isEmpty_cons, if_neg Bool.false_ne_true, rdropWhile_append_of_pos hback,
      h.rdropWhile_eq]

theorem trimmed_trimChars (cs : List Char) : Trimmed (trimChars cs) := by
  constructor
  · intro hfront
    obtain ⟨c, hc, hblank⟩ := Option.map_eq_some_iff.1 hfront
    obtain ⟨t, ht⟩ := List.rdropWhile_prefix isBlank (cs.dropWhile isBlank)
    obtain ⟨u, hu⟩ := List.head?_eq_some_iff.1 hc
    rw [← trimChars_eq, hu] at ht
    have hhead : (cs.dropWhile isBlank).head? = some c := by rw [← ht]; rfl
    have hnot := List.head?_dropWhile_not isBlank cs
    rw [hhead] at hnot
    simp [hblank] at hnot
  · intro hback
    obtain ⟨c, hc, hblank⟩ := Option.map_eq_some_iff.1 hback
    have hne : trimChars cs ≠ [] := by
      intro hnil
      simp [hnil] at hc
    have hlast : (trimChars cs).getLast hne = c := (List.getLast_eq_iff_getLast?_eq_some hne).2 hc
    exact List.rdropWhile_last_not isBlank _ hne (hlast ▸ hblank)

theorem lowerChars_eq_nil_iff : lowerChars cs = [] ↔ cs = [] := by
  have hhead := head?_lowerFrom [] cs
  rw [lowerChars]
  constructor
  · intro h
    simpa [h] using hhead.symm
  · rintro rfl
    rfl

theorem all_isBlank_of_trimChars (h : trimChars cs = []) : cs.all isBlank = true := by
  rw [trimChars_eq, List.rdropWhile_eq_nil_iff] at h
  rw [List.all_eq_true]
  cases hrest : cs.dropWhile isBlank with
  | nil => exact List.dropWhile_eq_nil_iff.1 hrest
  | cons c rest =>
    have hnot := List.head?_dropWhile_not isBlank cs
    rw [hrest] at h hnot
    simp [h c (List.mem_cons_self ..)] at hnot

end PathPolicy.Text
