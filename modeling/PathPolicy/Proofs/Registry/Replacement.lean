import PathPolicy.Proofs.Registry.Selection
import Mathlib.Data.List.Induction

/-! Replacing a registered schema. Every registry runs like the roster of its own schemas. A
schema whose selector is registered takes the place of the old one among all others, so no
path changes hands but those of the old schema. -/

namespace PathPolicy

variable [Host]

namespace Roster

variable {l : Roster} {schemas : List Schema}

/-- Among distinct entries the selector tells which one it is. -/
theorem Distinct.eq_of_selector (h : l.Distinct) {s t : Schema} (hs : s ∈ l)
    (ht : t ∈ l) (he : s.selector = t.selector) : s = t :=
  List.inj_on_of_nodup_map (List.pairwise_map.2 h) hs ht he

/-- Each selector in the place of its first schema, with the last one. -/
structure Settles (l : Roster) (schemas : List Schema) : Prop where
  places : l.map (·.selector) = (schemas.map (·.selector)).eraseDups
  last : ∀ s ∈ l, schemas.reverse.find? (·.selector = s.selector) = some s

theorem selectors_enter (l : Roster) (s : Schema) : (l.enter s).map (·.selector) =
    if s.selector ∈ l.map (·.selector) then l.map (·.selector)
    else l.map (·.selector) ++ [s.selector] := by
  have hmem : s.selector ∈ l.map (·.selector) ↔ l.has s.selector = true := by
    rw [has_iff, List.mem_map]
  unfold enter
  by_cases h : l.has s.selector = true
  · rw [if_pos h, if_pos (hmem.2 h), List.map_map]
    exact List.map_congr_left fun t _ => selector_replaced s t
  · rw [if_neg h, if_neg (mt hmem.1 h), List.map_append]
    rfl

theorem mem_enter {s t : Schema} (h : t ∈ l.enter s) :
    t = s ∨ t ∈ l ∧ t.selector ≠ s.selector := by
  unfold enter at h
  split at h
  · obtain ⟨u, hu, rfl⟩ := List.mem_map.1 h
    by_cases hus : u.selector = s.selector
    · exact .inl (if_pos hus)
    · rw [if_neg hus]
      exact .inr ⟨hu, hus⟩
  · next hs =>
    rw [Bool.not_eq_true, not_has_iff] at hs
    rcases List.mem_append.1 h with ht | ht
    · exact .inr ⟨ht, hs t ht⟩
    · exact .inl (List.mem_singleton.1 ht)

theorem Settles.enter (h : l.Settles schemas) (s : Schema) :
    (l.enter s).Settles (schemas ++ [s]) where
  places := by
    rw [selectors_enter, h.places, List.map_append, List.eraseDups_append]
    generalize schemas.map (·.selector) = selectors
    by_cases hs : s.selector ∈ selectors <;> simp [List.removeAll, List.eraseDups_cons, hs]
  last := by
    intro t ht
    rw [List.reverse_concat]
    rcases mem_enter ht with rfl | ⟨ht, hne⟩
    · exact List.find?_cons_of_pos (by simp)
    · rw [List.find?_cons_of_neg (by simpa using Ne.symm hne), h.last t ht]

end Roster

namespace Shelf

variable {κ : Type} {key? : Selector → Option κ}

theorem distinct_schemas (l : Shelf key?) : Roster.Distinct l.schemas := by
  refine List.pairwise_map.2 ((List.pairwise_map.1 l.nodup).imp_of_mem fun {a b} ha hb hne he => ?_)
  have hkey : some a.1 = some b.1 := by rw [← l.keyed a ha, ← l.keyed b hb, he]
  exact hne (Option.some.inj hkey)

end Shelf

namespace Registry

variable {r : Registry} {s t : Schema}

theorem isExact_of_mem_exact (h : s ∈ r.exact.schemas) : s.isExact = true := by
  obtain ⟨e, he, rfl⟩ := List.mem_map.1 h
  exact (Selector.path?_eq_some_iff.1 (r.exact.keyed e he)).1

theorem isExact_of_mem_patterns (h : s ∈ r.patterns.schemas) : s.isExact = false := by
  obtain ⟨e, he, rfl⟩ := List.mem_map.1 h
  unfold Schema.isExact
  rw [Selector.pattern?_eq_some_iff.1 (r.patterns.keyed e he)]
  rfl

/-- A registry runs like the roster of its own schemas. -/
theorem represents_schemas (r : Registry) : r.Represents r.schemas := by
  have hexact : ∀ s ∈ r.exact.schemas, s.isExact = true := fun s => isExact_of_mem_exact
  have hpatterns : ∀ s ∈ r.patterns.schemas, s.isExact = false := fun s => isExact_of_mem_patterns
  constructor
  · refine List.pairwise_append.2 ⟨r.exact.distinct_schemas, r.patterns.distinct_schemas, ?_⟩
    intro s hs t ht he
    have hkind : s.isExact = t.isExact := by rw [Schema.isExact, he, Schema.isExact]
    rw [hexact s hs, hpatterns t ht] at hkind
    cases hkind
  · rw [schemas, List.filter_append, List.filter_eq_self.2 hexact,
      List.filter_eq_nil_iff.2 (by simpa using hpatterns), List.append_nil]
  · rw [schemas, List.filter_append, List.filter_eq_nil_iff.2 (by simpa using hexact),
      List.filter_eq_self.2 (by simpa using hpatterns), List.nil_append]

/-- A registered selector keeps its place among all others. -/
theorem schemas_register_of_mem (hs : s ∈ r.schemas) (ht : t.selector = s.selector) :
    (r.register t).schemas = r.schemas.map fun u => if u.selector = t.selector then t else u := by
  have hhas : Roster.has r.schemas t.selector = true := Roster.has_iff.2 ⟨s, hs, ht.symm⟩
  have henter : Roster.enter r.schemas t =
      r.schemas.map fun u => if u.selector = t.selector then t else u := by
    rw [Roster.enter, if_pos hhas]
  have hkind (q : Selector → Bool) :
      ((fun u : Schema => q u.selector) ∘ fun u => if u.selector = t.selector then t else u) =
        fun u => q u.selector := by
    funext u
    rw [Function.comp_apply, Roster.selector_replaced]
  rw [(r.represents_schemas.register t).shows.schemas, henter, List.filter_map, List.filter_map]
  rw [show (fun u : Schema => u.isExact) = fun u => Selector.isExact u.selector from rfl, hkind,
    show (fun u : Schema => !u.isExact) = fun u => !Selector.isExact u.selector from rfl,
    hkind (!Selector.isExact ·), ← List.map_append]
  exact congrArg (List.map _) r.represents_schemas.shows.schemas.symm

/-- The place of a schema is all that selection sees of it. -/
theorem scan_register_of_mem (hs : s ∈ r.schemas) (ht : t.selector = s.selector) (path : String) :
    (r.register t).scan path =
      (r.scan path).map fun u => if u.selector = t.selector then t else u := by
  have hmatch : (fun u : Schema => u.isMatch path) ∘
      (fun u => if u.selector = t.selector then t else u) = fun u => u.isMatch path := by
    funext u
    rw [Function.comp_apply, Schema.isMatch, Schema.isMatch, Roster.selector_replaced]
  rw [scan, schemas_register_of_mem hs ht, List.find?_map, hmatch, scan]

/-- A path keeps its schema, unless that is the one which is replaced. -/
theorem select_register_of_mem (hs : s ∈ r.schemas) (ht : t.selector = s.selector)
    (path : String) :
    (r.select path = s ∧ (r.register t).select path = t) ∨
      (r.register t).select path = r.select path := by
  rw [select_eq_scan, select_eq_scan, scan_register_of_mem hs ht, fallback_register]
  cases hscan : r.scan path with
  | none => exact .inr rfl
  | some u =>
    rw [Option.map_some, Option.getD_some, Option.getD_some]
    by_cases hu : u.selector = t.selector
    · have hmem := (scan_eq_some r path hscan).1
      have hsame := r.represents_schemas.distinct.eq_of_selector hmem hs (hu.trans ht)
      exact .inl ⟨hsame, if_pos hu⟩
    · exact .inr (if_neg hu)

end Registry

end PathPolicy
