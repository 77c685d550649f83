import PathPolicy.Host.Standard
import PathPolicy.Proofs.Registry.Replacement

/-! The order of registration. Schemas with unequal selectors renew the entries of their
selectors in place and stand behind all others in the order in which they come, so two orders
differ in nothing but the order of the new entries; and selection sees of that no more than the
order of new patterns for the same path. -/

namespace PathPolicy

namespace Roster

variable [Host] {l : Roster} {schemas : List Schema} {s : Schema}

/-- What stands in the place of an entry once the schemas have been entered. -/
def renewed (schemas : List Schema) (s : Schema) : Schema :=
  (schemas.find? (·.selector = s.selector)).getD s

theorem has_enter (l : Roster) (s : Schema) (selector : Selector) :
    (l.enter s).has selector = (l.has selector || decide (s.selector = selector)) := by
  have hmem (k : Roster) : k.has selector = true ↔ selector ∈ k.map (·.selector) := by
    rw [has_iff, List.mem_map]
  rw [Bool.eq_iff_iff, hmem, selectors_enter, Bool.or_eq_true, hmem, decide_eq_true_iff]
  by_cases hs : s.selector ∈ l.map (·.selector)
  · rw [if_pos hs]
    exact ⟨.inl, fun h => h.elim id fun he => he ▸ hs⟩
  · rw [if_neg hs, List.mem_append, List.mem_singleton, eq_comm (a := selector)]

/-- A schema whose selector does not come again is renewed by nothing. -/
theorem renewed_of_fresh (h : ∀ t ∈ schemas, s.selector ≠ t.selector) : renewed schemas s = s := by
  have hnone : schemas.find? (·.selector = s.selector) = none :=
    List.find?_eq_none.2 fun t ht => by simpa using (h t ht).symm
  rw [renewed, hnone, Option.getD_none]

theorem renewed_cons (t : Schema) (schemas : List Schema) (s : Schema) :
    renewed (t :: schemas) s = if t.selector = s.selector then t else renewed schemas s := by
  unfold renewed
  by_cases h : t.selector = s.selector <;> simp [h]

/-- Entries are renewed in place, and the new ones follow in the order in which they come. -/
theorem enterAll_eq (l : Roster) (h : Distinct schemas) :
    schemas.foldl enter l = l.map (renewed schemas) ++ schemas.filter (!l.has ·.selector) := by
  induction schemas generalizing l with
  | nil =>
    have hsame : renewed [] = id := rfl
    simp [hsame]
  | cons s rest ih =>
    obtain ⟨hs, hrest⟩ := List.pairwise_cons.1 h
    have hnew : rest.filter (!(l.enter s).has ·.selector) = rest.filter (!l.has ·.selector) := by
      refine List.filter_congr fun t ht => ?_
      rw [has_enter, decide_eq_false (hs t ht), Bool.or_false]
    rw [List.foldl_cons, ih _ hrest, hnew, List.filter_cons]
    by_cases hl : l.has s.selector = true
    · have hmap : (l.enter s).map (renewed rest) = l.map (renewed (s :: rest)) := by
        rw [enter, if_pos hl, List.map_map]
        refine List.map_congr_left fun u _ => ?_
        rw [renewed_cons, Function.comp_apply]
        by_cases hu : u.selector = s.selector
        · rw [if_pos hu, if_pos hu.symm, renewed_of_fresh hs]
        · rw [if_neg hu, if_neg (Ne.symm hu)]
      rw [hmap, hl]
      rfl
    · have hmap : l.map (renewed rest) = l.map (renewed (s :: rest)) := by
        refine List.map_congr_left fun u hu => ?_
        have hne : s.selector ≠ u.selector := fun he => hl (has_iff.2 ⟨u, hu, he.symm⟩)
        rw [renewed_cons, if_neg hne]
      rw [enter, if_neg hl, List.map_append, List.map_singleton, renewed_of_fresh hs, hmap,
        Bool.eq_false_iff.2 hl, List.append_assoc]
      rfl

/-- What renews an entry does not depend on the order. -/
theorem renewed_perm {others : List Schema} (hp : schemas.Perm others) (hd : Distinct schemas) :
    renewed schemas = renewed others := by
  funext s
  have hone : {t ∈ schemas | decide (t.selector = s.selector)}.Subsingleton := by
    rintro t ⟨ht, hts⟩ u ⟨hu, hus⟩
    exact hd.eq_of_selector ht hu ((of_decide_eq_true hts).trans (of_decide_eq_true hus).symm)
  rw [renewed, List.find?_eq_find?_of_perm hp hone]
  rfl

end Roster

namespace Registry

section

variable [Host] {r : Registry} {schemas others : List Schema} {path : String}

/-- The schema is for a pattern that is not registered. -/
def isNewPattern (r : Registry) (s : Schema) : Bool := !s.isExact && (r.find? s.selector).isNone

theorem isNewPattern_eq (r : Registry) (s : Schema) :
    r.isNewPattern s = (!Roster.has r.schemas s.selector && !s.isExact) := by
  rw [isNewPattern, ← r.represents_schemas.isSome_find?, Option.not_isSome, Bool.and_comm]

/-- The registered schemas renewed, then the new ones: exact ones first in both. -/
theorem scan_registerAll (r : Registry) (h : Roster.Distinct schemas) (path : String) :
    (r.registerAll schemas).scan path =
      (((r.schemas.map (Roster.renewed schemas)).find? fun s => s.isExact && s.isMatch path).or
        ((schemas.filter (!Roster.has r.schemas ·.selector)).find?
          fun s => s.isExact && s.isMatch path)).or
      (((r.schemas.map (Roster.renewed schemas)).find? fun s => !s.isExact && s.isMatch path).or
        ((schemas.filter r.isNewPattern).find? (·.isMatch path))) := by
  have hnew : (schemas.filter r.isNewPattern).find? (·.isMatch path) =
      (schemas.filter (!Roster.has r.schemas ·.selector)).find?
        fun s => !s.isExact && s.isMatch path := by
    simp only [List.find?_filter, isNewPattern_eq, Bool.decide_and, Bool.decide_eq_true,
      Bool.and_assoc]
  rw [(r.represents_schemas.registerAll schemas).scan, Roster.enterAll_eq _ h, List.find?_append,
    List.find?_append, hnew]

/-- For one path there is one exact schema among distinct ones. -/
theorem subsingleton_exact (h : Roster.Distinct schemas) (path : String) :
    {s ∈ schemas | s.isExact && s.isMatch path}.Subsingleton := by
  have hkey {s : Schema} (hs : (s.isExact && s.isMatch path) = true) :
      s.selector.path? = some path := by
    rw [Bool.and_eq_true] at hs
    unfold Schema.isExact Schema.isMatch at hs
    cases hsel : s.selector with
    | exact e => simpa [hsel, Selector.isMatch, Selector.path?, eq_comm] using hs.2
    | pattern p => simp [hsel, Selector.isExact] at hs
  rintro s ⟨hs, hsm⟩ t ⟨ht, htm⟩
  exact h.eq_of_selector hs ht (Shelf.determines_path? (hkey hsm) (hkey htm))

/-- Two orders are told apart by no path for which the first new pattern is the same. -/
theorem select_registerAll_congr (hp : schemas.Perm others) (hd : Roster.Distinct schemas)
    (hnew : (schemas.filter r.isNewPattern).find? (·.isMatch path) =
      (others.filter r.isNewPattern).find? (·.isMatch path)) :
    (r.registerAll schemas).select path = (r.registerAll others).select path := by
  have hd' : Roster.Distinct others := (hp.pairwise_iff fun h => h.symm).1 hd
  have hexact := List.find?_eq_find?_of_perm (hp.filter (!Roster.has r.schemas ·.selector))
    (subsingleton_exact (hd.sublist List.filter_sublist) path)
  rw [select_eq_scan, select_eq_scan, scan_registerAll r hd, scan_registerAll r hd',
    fallback_registerAll, fallback_registerAll, Roster.renewed_perm hp hd, hexact, hnew]

/-- The same schemas in two orders select the same schema on every path if the new patterns
come in one order, and else on every path that no two of them match. -/
theorem select_registerAll_perm (r : Registry) (hp : schemas.Perm others)
    (hd : Roster.Distinct schemas) :
    (schemas.filter r.isNewPattern = others.filter r.isNewPattern →
      ∀ path, (r.registerAll schemas).select path = (r.registerAll others).select path) ∧
    ∀ path,
      (∀ s ∈ schemas, ∀ t ∈ schemas, r.isNewPattern s = true → r.isNewPattern t = true →
        s.isMatch path = true → t.isMatch path = true → s = t) →
      (r.registerAll schemas).select path = (r.registerAll others).select path := by
  constructor
  · intro horder path
    exact select_registerAll_congr hp hd (by rw [horder])
  · intro path hone
    refine select_registerAll_congr hp hd (List.find?_eq_find?_of_perm (hp.filter _) ?_)
    rintro s ⟨hs, hsm⟩ t ⟨ht, htm⟩
    obtain ⟨hs, hsn⟩ := List.mem_filter.1 hs
    obtain ⟨ht, htn⟩ := List.mem_filter.1 ht
    exact hone s hs t ht hsn htn hsm htm

def permitting (selector : Selector) : Schema := { DefaultMode.permissive.schema with selector }

end

/-- A pattern of all paths with one sign after the slash. -/
def oneSign : PathPattern where
  source := "/."
  flags := 0
  program := ⟨32, 0, .cat (.char 0x2F) .any⟩
  notBlank := by rfl
  compiled := by rfl

/-- A pattern of one path, which the other pattern matches too. -/
def letterA : PathPattern where
  source := "/a"
  flags := 0
  program := ⟨32, 0, .cat (.char 0x2F) (.char 0x61)⟩
  notBlank := by rfl
  compiled := by rfl

/-- The registered pattern is replaced and an exact path is new, at whatever place they come. -/
theorem select_registerAll_shuffled :
    let r := (empty DefaultMode.permissive.schema).register DefaultMode.permissive.schema
    let first := permitting (.pattern oneSign)
    let second := permitting (.pattern letterA)
    let other := permitting (.exact ⟨"/b", by rfl⟩)
    let schemas := [first, other, DefaultMode.strict.schema, second]
    let shuffled := [DefaultMode.strict.schema, first, other, second]
    let turned := [DefaultMode.strict.schema, second, first, other]
    (schemas.Perm shuffled ∧ schemas.Perm turned ∧ Roster.Distinct schemas) ∧
      (schemas.filter r.isNewPattern = shuffled.filter r.isNewPattern ∧
        ∀ path, (r.registerAll schemas).select path = (r.registerAll shuffled).select path) ∧
      (∀ s ∈ schemas, ∀ t ∈ schemas, r.isNewPattern s = true → r.isNewPattern t = true →
        s.isMatch "/c" = true → t.isMatch "/c" = true → s = t) ∧
      (r.registerAll schemas).select "/c" = (r.registerAll turned).select "/c" := by
  intro r first second other schemas shuffled turned
  have hshuffled : schemas.Perm shuffled :=
    (List.perm_append_comm : ([first, other] ++ [DefaultMode.strict.schema]).Perm _).append_right
      [second]
  have hturned : schemas.Perm turned :=
    (List.perm_append_comm : ([first, other] ++ [DefaultMode.strict.schema, second]).Perm _)
  have hdistinct : Roster.Distinct schemas := by decide
  have horder : schemas.filter r.isNewPattern = shuffled.filter r.isNewPattern := rfl
  have hfirst : ∀ s ∈ schemas, r.isNewPattern s = true → s.isMatch "/c" = true → s = first := by
    refine List.forall_mem_cons.2 ⟨fun _ _ => rfl, List.forall_mem_cons.2 ⟨?_,
      List.forall_mem_cons.2 ⟨?_, List.forall_mem_singleton.2 ?_⟩⟩⟩
    · exact fun h _ => absurd h (by decide)
    · exact fun h _ => absurd h (by decide)
    · exact fun _ h => absurd h (by decide)
  have hone : ∀ s ∈ schemas, ∀ t ∈ schemas, r.isNewPattern s = true → r.isNewPattern t = true →
      s.isMatch "/c" = true → t.isMatch "/c" = true → s = t :=
    fun s hs t ht hsn htn hsm htm => (hfirst s hs hsn hsm).trans (hfirst t ht htn htm).symm
  exact ⟨⟨hshuffled, hturned, hdistinct⟩,
    ⟨horder, (select_registerAll_perm r hshuffled hdistinct).1 horder⟩, hone,
    (select_registerAll_perm r hturned hdistinct).2 "/c" hone⟩

end Registry

end PathPolicy
