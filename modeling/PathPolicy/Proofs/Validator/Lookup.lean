import PathPolicy.Host.Standard
import PathPolicy.Proofs.Text.Trimming
import PathPolicy.Validator.Named

/-! Validators by name. The name that is asked for is trimmed and the names of a table are not, so
an entry is found, by any name of its form, exactly if its own name has no white space around
it. -/

namespace PathPolicy.Validator

variable {extra : Table} {before after : Table} {k n : String} {c : Candidate}

/-- Two names of one form are meant to be one name. -/
def form (name : String) : String := Text.lower (Text.trim name)

theorem form_ne_empty (h : Text.isBlankText k = false) : form k ≠ "" := by
  intro hform
  have hlower : Text.lowerChars (Text.trimChars k.toList) = [] := by
    simpa [form, Text.lower, Text.trim] using congrArg String.toList hform
  rw [Text.isBlankText, Text.all_isBlank_of_trimChars (Text.lowerChars_eq_nil_iff.1 hlower)] at h
  cases h

theorem key_eq_form (h : form n ≠ "") : key (some n) = form n := by
  have hn : n.isEmpty = false := by
    rw [Bool.eq_false_iff]
    intro hempty
    rw [String.isEmpty_iff] at hempty
    subst hempty
    exact h (by decide)
  simp [key, form, hn]

/-- A name of a table, in lower case, is the form of a name only if there is nothing to trim. -/
theorem lower_eq_form_iff : Text.lower k = form n ↔ Text.trim k = k ∧ form k = form n := by
  constructor
  · intro h
    have hchars : Text.lowerChars k.toList = Text.lowerChars (Text.trimChars n.toList) := by
      simpa [form, Text.lower, Text.trim] using congrArg String.toList h
    have htrimmed : Text.Trimmed k.toList := by
      rw [← Text.trimmed_lowerChars, hchars, Text.trimmed_lowerChars]
      exact Text.trimmed_trimChars _
    have htrim : Text.trim k = k := by
      rw [Text.trim, Text.trimChars_of_trimmed htrimmed, String.ofList_toList]
    exact ⟨htrim, by rw [form, htrim, h]⟩
  · rintro ⟨htrim, h⟩
    rw [← h, form, htrim]

namespace Table

/-- The last entry with a name of that kind. -/
theorem exists_last (kind : String → Prop) (h : ∃ e ∈ extra, kind e.1) :
    ∃ before e after, extra = before ++ e :: after ∧ kind e.1 ∧ ∀ e' ∈ after, ¬kind e'.1 := by
  induction extra with
  | nil => simp at h
  | cons e rest ih =>
    by_cases hrest : ∃ e ∈ rest, kind e.1
    · obtain ⟨before, e', after, hsplit, hkind, hafter⟩ := ih hrest
      exact ⟨e :: before, e', after, by rw [hsplit, List.cons_append], hkind, hafter⟩
    · refine ⟨[], e, rest, rfl, ?_, fun e' he' hkind => hrest ⟨e', he', hkind⟩⟩
      obtain ⟨e', he', hkind⟩ := h
      rcases List.mem_cons.1 he' with rfl | he'
      · exact hkind
      · exact absurd ⟨e', he', hkind⟩ hrest

/-- The given entries from the last one to the first, and then those that are built in. -/
theorem find?_complete (extra : Table) (name : String) : extra.complete.find? name =
    ((extra.reverse.find? (Text.lower ·.1 = name)).map (·.2)).or (builtIn.find? name) := by
  rw [complete, find?, List.reverse_append, List.find?_append, ← List.map_reverse, List.find?_map,
    Option.map_or, Option.map_map]
  rfl

theorem find?_complete_append (before after : Table) (name : String) :
    (complete (before ++ after)).find? name =
      ((after.reverse.find? (Text.lower ·.1 = name)).map (·.2)).or
        (before.complete.find? name) := by
  rw [find?_complete, find?_complete, List.reverse_append, List.find?_append, Option.map_or,
    Option.or_assoc]

theorem find?_complete_concat (before : Table) (e : String × Candidate) (name : String) :
    (complete (before ++ [e])).find? name =
      if Text.lower e.1 = name then some e.2 else before.complete.find? name := by
  rw [find?_complete_append]
  by_cases h : Text.lower e.1 = name <;> simp [h]

/-- An entry is passed over if the lower case of its name is another one. -/
theorem find?_complete_skip (before after : Table) {e : String × Candidate} {name : String}
    (h : Text.lower e.1 ≠ name) :
    (complete (before ++ e :: after)).find? name = (complete (before ++ after)).find? name := by
  rw [List.append_cons, find?_complete_append, find?_complete_concat, if_neg h,
    find?_complete_append]

theorem find?_complete_last (before : Table) {after : Table} {e : String × Candidate}
    {name : String} (h : Text.lower e.1 = name) (hafter : ∀ e' ∈ after, Text.lower e'.1 ≠ name) :
    (complete (before ++ e :: after)).find? name = some e.2 := by
  have hnone : after.reverse.find? (Text.lower ·.1 = name) = none := by
    rw [List.find?_eq_none]
    intro e' he'
    simpa using hafter e' (List.mem_reverse.1 he')
  rw [List.append_cons, find?_complete_append, find?_complete_concat, if_pos h, hnone]
  rfl

end Table

theorem resolve_eq_ok_iff [Host] (h : form n ≠ "") :
    resolve (.str n) extra = .ok c ↔ extra.complete.find? (form n) = some c := by
  rw [resolve, resolveText, key_eq_form h]
  cases extra.complete.find? (form n) <;> simp [Except.mapError]

/-- The last entry of a table that has a name of the form of `name`, and what is around it. -/
structure Table.Last (extra : Table) (name : String) (before : Table) (e : String × Candidate)
    (after : Table) : Prop where
  split : extra = before ++ e :: after
  sameForm : form e.1 = form name
  nothingAfter : ∀ e' ∈ after, form e'.1 ≠ form name

/-- There is a last entry of the form of a name in the table. By any name of that form it is found
if its own name has no white space around it. If it has, then the entry is passed over, whatever it
holds, and what is found is what there is without it. -/
theorem resolve_of_form [Host] (hk : k ∈ extra.map (·.1))
    (hblank : Text.isBlankText k = false) (hform : form n = form k) :
    (∃ before e after, extra.Last n before e after) ∧
      ∀ before e after, extra.Last n before e after →
        (Text.trim e.1 = e.1 → resolve (.str n) extra = .ok e.2) ∧
          (Text.trim e.1 ≠ e.1 → ∀ c found,
            resolve (.str n) (before ++ (e.1, c) :: after) = .ok found ↔
              resolve (.str n) (before ++ after) = .ok found) := by
  have hne : form n ≠ "" := by
    rw [hform]
    exact form_ne_empty hblank
  constructor
  · obtain ⟨e, he, rfl⟩ := List.mem_map.1 hk
    obtain ⟨before, e', after, hsplit, hsame, hafter⟩ :=
      Table.exists_last (fun name => form name = form n) ⟨e, he, hform.symm⟩
    exact ⟨before, e', after, hsplit, hsame, hafter⟩
  · rintro before e after ⟨rfl, hsame, hafter⟩
    refine ⟨fun htrim => ?_, fun htrim c found => ?_⟩
    · rw [resolve_eq_ok_iff hne]
      exact Table.find?_complete_last before (lower_eq_form_iff.2 ⟨htrim, hsame⟩)
        fun e' he' hlower => hafter e' he' (lower_eq_form_iff.1 hlower).2
    · rw [resolve_eq_ok_iff hne, resolve_eq_ok_iff hne, Table.find?_complete_skip]
      exact fun hlower => htrim (lower_eq_form_iff.1 hlower).1

theorem resolve_of_form_spellings :
    let extra : Table := [("Json", .validator .rejectAll), (" other", .validator .acceptAll),
      ("JSON", .validator (.json false))]
    ("Json" ∈ extra.map (·.1) ∧ Text.isBlankText "Json" = false ∧ form "\tjson " = form "Json") ∧
      resolve (.str "\tjson ") extra = .ok (.validator (.json false)) := by
  intro extra
  have hk : "Json" ∈ extra.map (·.1) := List.mem_cons_self ..
  have hblank : Text.isBlankText "Json" = false := by decide
  have hform : form "\tjson " = form "Json" := by decide +kernel
  have hlast : extra.Last "\tjson " (extra.take 2) ("JSON", .validator (.json false)) [] :=
    ⟨rfl, by decide +kernel, by simp⟩
  obtain ⟨-, hfound⟩ := resolve_of_form hk hblank hform
  exact ⟨⟨hk, hblank, hform⟩, (hfound _ _ _ hlast).1 (by decide)⟩

/-- Asked for by their own names, one gives way to what is built in, and one is unknown. -/
theorem not_resolve_spaced :
    resolve (.str " json ") [(" json ", .validator .rejectAll)] =
        .ok (.validator (.json true)) ∧
      ∀ found, resolve (.str " custom ") [(" custom ", .validator .rejectAll)] ≠ .ok found := by
  constructor
  · rfl
  · intro found h
    rw [resolve_eq_ok_iff (by decide +kernel)] at h
    have hnone : Table.find? (Table.complete [(" custom ", .validator .rejectAll)])
        (form " custom ") = none := by rfl
    rw [hnone] at h
    cases h

end PathPolicy.Validator
