import PathPolicy.Proofs.Text.Trimming

/-! Spellings of a word. A text that is trimmed and put in lower case is a word of plain letters just
if it is this word in ASCII letters of either case with white space around it: of all letters from
outside ASCII, the kelvin sign alone becomes an ASCII letter by itself, and no such word has it. -/

namespace PathPolicy.Text

/-- The word in ASCII letters of either case, with any white space around it. -/
inductive Spells (word : String) : String → Prop
  | padded {front core back : String} : isBlankText front = true → core.toLower = word →
      isBlankText back = true → Spells word (front ++ (core ++ back))

/-- A printing ASCII character that is not what the kelvin sign becomes. -/
def Plain (c : Char) : Prop := 0x20 < c.toNat ∧ c.toNat < 0x80 ∧ c ≠ 'k'

instance (c : Char) : Decidable (Plain c) :=
  inferInstanceAs (Decidable (0x20 < c.toNat ∧ c.toNat < 0x80 ∧ c ≠ 'k'))

variable {cs : List Char} {word s : String}

theorem Plain.not_blank {c : Char} (h : Plain c) : isBlank c = false := by
  have hascii : ∀ n < 0x80, 0x20 < n → blankRanges.holds n = false := by decide
  exact hascii c.toNat h.2.1 h.1

/-- A character that becomes plain characters is an ASCII letter, or stays as it is. -/
theorem lowerAt_of_plain {before after : List Char} {c : Char}
    (h : ∀ d ∈ lowerAt before c after, Plain d) :
    c.toNat < 0x80 ∧ lowerAt before c after = [c.toLower] := by
  unfold lowerAt at h ⊢
  split at h
  · have hsigma := h _ (List.mem_singleton_self _)
    split at hsigma <;> exact absurd hsigma (by decide)
  · next hs =>
    split at h
    · exact absurd (h (Char.ofNat 0x307) (by simp)) (by decide)
    · next hdot =>
      have hlower := h _ (List.mem_singleton_self _)
      have hascii : c.toNat < 0x80 := by
        have hbounds := hlower
        rw [Plain, Char.toNat_ofNat] at hbounds
        split at hbounds
        · rcases ascii_of_lowerCode hbounds.2.1 with hn | hn | hn
          · exact hn
          · exact absurd hn hdot
          · rw [hn] at hlower
            exact absurd hlower (by decide +kernel)
        · exact absurd hbounds.1 (by decide)
      rw [if_neg hs, if_neg hdot, lowerCode_of_ascii _ hascii, Char.ofNat_toNat]
      exact ⟨hascii, rfl⟩

theorem lowerChars_of_plain (h : ∀ d ∈ lowerChars cs, Plain d) :
    lowerChars cs = cs.map Char.toLower := by
  unfold lowerChars at h ⊢
  generalize ([] : List Char) = before at h ⊢
  induction cs generalizing before with
  | nil => rfl
  | cons c rest ih =>
    rw [lowerFrom] at h ⊢
    obtain ⟨hc, hrest⟩ := List.forall_mem_append.1 h
    rw [(lowerAt_of_plain hc).2, ih _ hrest, List.map_cons]
    rfl

theorem trimmed_of_not_blank (h : ∀ c ∈ cs, isBlank c = false) : Trimmed cs := by
  constructor
  · intro hfront
    obtain ⟨c, hc, hblank⟩ := Option.map_eq_some_iff.1 hfront
    simp [h c (List.mem_of_mem_head? hc)] at hblank
  · intro hback
    obtain ⟨c, hc, hblank⟩ := Option.map_eq_some_iff.1 hback
    simp [h c (List.mem_of_mem_getLast? hc)] at hblank

/-- What is trimmed away is white space. -/
theorem exists_padding (cs : List Char) : ∃ front back, cs = front ++ (trimChars cs ++ back) ∧
    (∀ c ∈ front, isBlank c = true) ∧ ∀ c ∈ back, isBlank c = true := by
  have hback : cs.dropWhile isBlank =
      trimChars cs ++ ((cs.dropWhile isBlank).reverse.takeWhile isBlank).reverse := by
    rw [trimChars, ← List.reverse_append, List.takeWhile_append_dropWhile, List.reverse_reverse]
  refine ⟨cs.takeWhile isBlank, ((cs.dropWhile isBlank).reverse.takeWhile isBlank).reverse,
    ?_, fun c hc => List.mem_takeWhile_imp hc, fun c hc => ?_⟩
  · rw [← hback, List.takeWhile_append_dropWhile]
  · exact List.mem_takeWhile_imp (List.mem_reverse.1 hc)

theorem Spells.lower_trim (hword : ∀ c ∈ word.toList, Plain c) (h : Spells word s) :
    lower (trim s) = word := by
  obtain ⟨hfront, hcore, hback⟩ := h
  rename_i front core back
  have hchars : core.toList.map Char.toLower = word.toList := by
    rw [← hcore, String.toLower, String.toList_map]
  have hascii : ∀ c ∈ core.toList, c.toNat < 0x80 := fun c hc =>
    ascii_of_toLower (hword _ (hchars ▸ List.mem_map_of_mem hc)).2.1
  have hlower : lowerChars core.toList = word.toList := by
    rw [lowerChars_of_ascii hascii, hchars]
  have htrimmed : Trimmed core.toList :=
    trimmed_lowerChars.1 (hlower ▸ trimmed_of_not_blank fun c hc => (hword c hc).not_blank)
  have htrim : trimChars (front.toList ++ (core.toList ++ back.toList)) = core.toList :=
    trimChars_padded (List.all_eq_true.1 hfront) (List.all_eq_true.1 hback) htrimmed
  simp only [lower, trim, String.toList_append, htrim, hlower, String.ofList_toList]

theorem lower_trim_eq_iff (hword : ∀ c ∈ word.toList, Plain c) :
    lower (trim s) = word ↔ Spells word s := by
  refine ⟨fun h => ?_, Spells.lower_trim hword⟩
  have hlower : lowerChars (trimChars s.toList) = word.toList := by
    simpa [lower, trim] using congrArg String.toList h
  have hcore : (trimChars s.toList).map Char.toLower = word.toList := by
    rw [← lowerChars_of_plain (hlower ▸ hword), hlower]
  obtain ⟨front, back, hsplit, hfront, hback⟩ := exists_padding s.toList
  have hs : s = String.ofList front ++ (String.ofList (trimChars s.toList) ++ String.ofList back) := by
    rw [← String.toList_inj, String.toList_append, String.toList_append, String.toList_ofList,
      String.toList_ofList, String.toList_ofList, ← hsplit]
  rw [hs]
  refine .padded ?_ ?_ ?_
  · simpa [isBlankText] using hfront
  · rw [← String.toList_inj, String.toLower, String.toList_map, String.toList_ofList, hcore]
  · simpa [isBlankText] using hback

/-- Where each has a word of its own, the word tells which one it is. -/
theorem find?_word_eq_some_iff {α : Type} {wordOf : α → String} (hinj : Function.Injective wordOf)
    {all : List α} {a : α} (ha : a ∈ all) (text : String) :
    all.find? (wordOf · = text) = some a ↔ text = wordOf a := by
  constructor
  · intro h
    have hword := List.find?_some h
    exact (of_decide_eq_true hword).symm
  · rintro rfl
    cases hf : all.find? (wordOf · = wordOf a) with
    | none =>
      have hnone := List.find?_eq_none.1 hf a ha
      simp at hnone
    | some b =>
      have hword : wordOf b = wordOf a := by simpa using List.find?_some hf
      rw [hinj hword]

end PathPolicy.Text
