import PathPolicy.Host.Standard
import PathPolicy.Proofs.Guard.Spelling

/-! The words for allowances and for modes. A text is read as one of them just if it is the word in
ASCII letters of either case with white space around it; anything else is refused, and no letter from
outside ASCII is part of a word that is read. -/

namespace PathPolicy

namespace Allowance

variable {s : String} {a b : Allowance}

theorem word_injective : Function.Injective word := by
  intro a b h
  cases a <;> cases b <;> first | rfl | exact absurd h (by decide)

theorem mem_all (a : Allowance) : a ∈ all := by cases a <;> decide

theorem plain_word (a : Allowance) : ∀ c ∈ a.word.toList, Text.Plain c := by
  cases a <;> simp [word, Text.Plain]

theorem ofText?_eq_some_iff : ofText? s = some a ↔ Text.Spells a.word s := by
  rw [← Text.lower_trim_eq_iff a.plain_word]
  exact Text.find?_word_eq_some_iff word_injective a.mem_all (Text.lower (Text.trim s))

theorem ofText?_eq_none_iff : ofText? s = none ↔ ∀ a : Allowance, ¬Text.Spells a.word s := by
  simp only [← ofText?_eq_some_iff, Option.eq_none_iff_forall_ne_some, ne_eq]

theorem parse_str_eq_ok_iff [Host] : parse (.str s) = .ok a ↔ Text.Spells a.word s := by
  rw [← ofText?_eq_some_iff]
  simp only [parse, Value.text]
  cases ofText? s <;> simp

/-- A text that is refused can be shown. -/
theorem parse_str_eq_error_iff [Host] {f : Failure} : parse (.str s) = .error f ↔
    f = .definition (.unknownAllowance (.str s)) ∧ ∀ a : Allowance, ¬Text.Spells a.word s := by
  rw [← ofText?_eq_none_iff]
  simp only [parse, Value.text, Failure.refusing_str]
  cases ofText? s <;> simp [eq_comm]

end Allowance

namespace CreateMode

variable {s : String} {m : CreateMode}

theorem ofText?_eq_some_iff_spells : ofText? s = some m ↔ Text.Spells m.word s := by
  rw [← Text.lower_trim_eq_iff m.plain_word, ofText?_eq_some_iff]

theorem ofText?_eq_none_iff : ofText? s = none ↔ ∀ m : CreateMode, ¬Text.Spells m.word s := by
  simp only [← ofText?_eq_some_iff_spells, Option.eq_none_iff_forall_ne_some, ne_eq]

theorem parse_str_eq_ok_iff [Host] {sequential : Bool} :
    (Given.value (.str s)).parse sequential = .ok m ↔ Text.Spells m.word s := by
  rw [← ofText?_eq_some_iff_spells]
  simp only [Given.parse]
  cases ofText? s <;> simp

theorem parse_str_eq_error_iff [Host] {sequential : Bool} {f : Failure} :
    (Given.value (.str s)).parse sequential = .error f ↔
      f = .definition (unknown (.str s)) ∧ ∀ m : CreateMode, ¬Text.Spells m.word s := by
  rw [← ofText?_eq_none_iff]
  simp only [Given.parse, Failure.refusing_str]
  cases ofText? s <;> simp [eq_comm]

end CreateMode

namespace Guard

/-- The words that are read. -/
def words : List String := Allowance.all.map Allowance.word ++ CreateMode.all.map CreateMode.word

theorem plain_of_mem_words {word : String} (h : word ∈ words) : ∀ c ∈ word.toList, Text.Plain c := by
  rcases List.mem_append.1 h with h | h
  · obtain ⟨a, -, rfl⟩ := List.mem_map.1 h
    exact a.plain_word
  · obtain ⟨m, -, rfl⟩ := List.mem_map.1 h
    exact m.plain_word

/-- A text is an allowance or a mode just if it spells its word, and is refused as an argument if it
spells none. In no place of a text does a character become letters of these words but an ASCII one,
and this one becomes its own lower-case letter. -/
theorem parse_spells [Host] (s : String) :
    (∀ a, Allowance.parse (.str s) = .ok a ↔ Text.Spells a.word s) ∧
      (∀ f, Allowance.parse (.str s) = .error f ↔
        f = .definition (.unknownAllowance (.str s)) ∧ ∀ a : Allowance, ¬Text.Spells a.word s) ∧
      (∀ sequential m, (CreateMode.Given.value (.str s)).parse sequential = .ok m ↔
        Text.Spells m.word s) ∧
      (∀ sequential f, (CreateMode.Given.value (.str s)).parse sequential = .error f ↔
        f = .definition (CreateMode.unknown (.str s)) ∧
          ∀ m : CreateMode, ¬Text.Spells m.word s) ∧
      (DefinitionError.unknownAllowance (.str s)).code = .invalidArgument ∧
      (CreateMode.unknown (.str s)).code = .invalidArgument ∧
      ∀ before c after,
        (∀ d ∈ Text.lowerAt before c after, ∃ word ∈ words, d ∈ word.toList) →
          c.toNat < 0x80 ∧ Text.lowerAt before c after = [c.toLower] := by
  refine ⟨fun _ => Allowance.parse_str_eq_ok_iff, fun _ => Allowance.parse_str_eq_error_iff,
    fun _ _ => CreateMode.parse_str_eq_ok_iff, fun _ _ => CreateMode.parse_str_eq_error_iff,
    rfl, rfl, fun before c after h => Text.lowerAt_of_plain fun d hd => ?_⟩
  obtain ⟨word, hword, hmem⟩ := h d hd
  exact plain_of_mem_words hword d hmem

/-- A word in two cases between two kinds of white space, and the capital letter in it. -/
theorem parse_spells_mixedCase :
    let s := "\u2003" ++ ("MuSt" ++ "\t")
    Text.Spells "must" s ∧ Allowance.parse (.str s) = .ok .must ∧
      (∀ d ∈ Text.lowerAt [] 'M' ['u'], ∃ word ∈ words, d ∈ word.toList) ∧
      Text.lowerAt [] 'M' ['u'] = ['m'] := by
  intro s
  have hs : Text.Spells "must" s := .padded (by decide +kernel) (by decide +kernel) (by decide +kernel)
  have hletter : ∀ d ∈ Text.lowerAt [] 'M' ['u'], ∃ word ∈ words, d ∈ word.toList := by
    have hlower : Text.lowerAt [] 'M' ['u'] = ['m'] := by decide +kernel
    rw [hlower]
    exact fun d hd => ⟨"must", by decide, List.mem_singleton.1 hd ▸ by decide⟩
  obtain ⟨hallowance, -, -, -, -, -, hascii⟩ := parse_spells s
  exact ⟨hs, (hallowance .must).2 hs, hletter, (hascii [] 'M' ['u'] hletter).2⟩

end Guard

end PathPolicy
