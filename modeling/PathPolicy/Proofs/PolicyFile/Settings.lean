import PathPolicy.Proofs.PolicyFile.Start

/-! The settings of an entry, and the schema that they make. A builder that was given
them all holds the documentation of the entry, and this alone can still be missing. -/

namespace PathPolicy

namespace Validator

variable {α : Type} {p : Part} {table : Table}

end Validator

namespace Schema.Entry

variable {entries : Entries} {table : Validator.Table}

theorem named?_eq_some_iff {items : Entries} {fields : Fields} :
    named? items = some fields ↔ items = fields.map fun e => (.str e.1, e.2) := by
  induction items generalizing fields with
  | nil =>
    rw [named?, Option.some_inj, eq_comm]
    exact (List.map_eq_nil_iff.symm.trans eq_comm)
  | cons e rest ih =>
    obtain ⟨k, v⟩ := e
    cases k with
    | str k =>
      rw [named?, Option.map_eq_some_iff]
      constructor
      · rintro ⟨more, hm, rfl⟩
        rw [ih.1 hm, List.map_cons]
      · intro h
        cases fields with
        | nil => cases h
        | cons f more =>
          obtain ⟨he, hrest⟩ := List.cons_eq_cons.1 h
          cases he
          exact ⟨more, ih.2 hrest, rfl⟩
    | _ =>
      constructor
      · intro h
        cases h
      · intro h
        cases fields with
        | nil => cases h
        | cons f more => cases (List.cons_eq_cons.1 h).1

theorem metadata_eq_ok_iff {v : Value} {fields : Fields} :
    metadata v = .ok fields ↔ v = fields.toValue := by
  constructor
  · intro h
    unfold metadata at h
    split at h
    · split at h <;> cases h
      rename_i hn
      rw [named?_eq_some_iff.1 hn]
      rfl
    · cases h
  · rintro rfl
    simp only [metadata, Fields.toValue, named?_eq_some_iff.2 rfl]

theorem checkDocumentation_eq_ok_iff (v : Value) (path : String) :
    (∃ d, Draft.checkDocumentation v path = .ok d) ↔
      ∃ s, v = .str s ∧ Text.isBlankText s = false := by
  unfold Draft.checkDocumentation
  split
  · rename_i s
    by_cases hs : Text.isBlankText s = false
    · simp [hs]
    · simp [hs]
  · rename_i hv
    constructor
    · rintro ⟨_, h⟩
      cases h
    · rintro ⟨s, hs, -⟩
      exact (hv s hs).elim

variable [Host]

section Documentation

variable {b b' : Builder}

/-- Of the checks of a draft only that of the documentation can fail for a builder. -/
theorem draft_build_eq (b : Builder) :
    b.draft.build = (Draft.checkDocumentation b.documentation b.selector.raw).map fun d => {
      selector := b.selector
      documentation := d.1
      documented := d.2
      validator := b.validator
      ephemeral := b.ephemeral
      sequential := b.sequential
      watched := b.watched
      canBeDeleted := b.canBeDeleted.truthy
      name := if b.name.truthy then b.name else .str b.selector.raw
      metadata := b.metadata } := by
  have hcheck : Draft.checkDocumentation b.draft.documentation b.selector.raw =
      Draft.checkDocumentation b.documentation b.selector.raw := rfl
  unfold Draft.build
  simp only [Builder.draft] at hcheck ⊢
  simp only [Draft.checkSelector, Draft.checkValidator, Draft.checkAllowance, bind, Except.bind]
  cases Draft.checkDocumentation b.documentation b.selector.raw <;> rfl

end Documentation

end Schema.Entry

end PathPolicy
