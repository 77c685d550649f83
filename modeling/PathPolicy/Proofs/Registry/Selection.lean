import PathPolicy.Proofs.Registry.Refinement
import Mathlib.Data.List.Nodup

/-! Selection against a plain scan. The slot of a path holds the only exact schema that
matches it, so the answer is the first schema in the order of the registry that matches
the path, and the schema of last resort only where none does. -/

namespace PathPolicy

variable [Host]

namespace Shelf

variable {κ : Type} [DecidableEq κ] {key? : Selector → Option κ}

theorem get?_of_mem (l : Shelf key?) {e : κ × Schema} (h : e ∈ l.slots) :
    l.get? e.1 = some e.2 := by
  unfold get?
  cases hf : l.slots.find? (·.1 = e.1) with
  | none =>
    have hnone := List.find?_eq_none.1 hf e h
    simp at hnone
  | some f =>
    have hkey : f.1 = e.1 := by simpa using List.find?_some hf
    have hslot : f = e := List.inj_on_of_nodup_map l.nodup (List.mem_of_find?_eq_some hf) h hkey
    rw [hslot, Option.map_some]

/-- Only the schema under the path itself matches a path on the exact shelf. -/
theorem find?_isMatch (l : Shelf Selector.path?) (path : String) :
    l.schemas.find? (·.isMatch path) = l.get? path := by
  rw [get?_eq_find?]
  apply List.find?_congr
  intro s hs
  obtain ⟨e, he, rfl⟩ := List.mem_map.1 hs
  have hkey := l.keyed e he
  unfold Schema.isMatch
  cases hsel : e.2.selector with
  | pattern p => cases hsel ▸ hkey
  | exact a => simp [Selector.isMatch, Selector.path?, eq_comm]

end Shelf

namespace Registry

variable (r : Registry) (path : String)

/-- The first schema in the order of the registry that matches the path. -/
def scan : Option Schema := r.schemas.find? (·.isMatch path)

theorem scan_eq : r.scan path = (r.exact.get? path).or
    (r.patterns.schemas.find? (·.isMatch path)) := by
  rw [scan, schemas, List.find?_append, Shelf.find?_isMatch]

/-- The slots and the walk over the patterns find what the scan finds. -/
theorem select_eq_scan : r.select path = (r.scan path).getD r.fallback := by
  rw [scan_eq, select]
  cases r.exact.get? path <;> rfl

theorem scan_eq_none_iff : r.scan path = none ↔ ∀ s ∈ r.schemas, s.isMatch path = false := by
  simp [scan]

theorem scan_eq_some {s : Schema} (h : r.scan path = some s) :
    s ∈ r.schemas ∧ s.isMatch path = true :=
  ⟨List.mem_of_find?_eq_some h, by simpa using List.find?_some h⟩

/-- A roster is scanned as its registry is: the exact entries, then the pattern entries. -/
theorem Represents.scan {r : Registry} {l : Roster} (h : r.Represents l) (path : String) :
    r.scan path = (l.find? fun s => s.isExact && s.isMatch path).or
      (l.find? fun s => !s.isExact && s.isMatch path) := by
  simp only [Registry.scan, h.shows.schemas, List.find?_append, List.find?_filter,
    Bool.decide_and, Bool.decide_eq_true]

/-- A schema for the path itself is found before any pattern. -/
theorem scan_of_exact {s : Schema} (hs : s ∈ r.schemas) (he : s.isExact = true)
    (hp : s.path = path) : r.scan path = some s := by
  rcases List.mem_append.1 hs with hs | hs
  · obtain ⟨e, hmem, rfl⟩ := List.mem_map.1 hs
    have hkey : e.2.path = e.1 := (Selector.path?_eq_some_iff.1 (r.exact.keyed e hmem)).2
    rw [scan_eq, ← hp, hkey, r.exact.get?_of_mem hmem]
    rfl
  · obtain ⟨e, hmem, rfl⟩ := List.mem_map.1 hs
    have hsel := Selector.pattern?_eq_some_iff.1 (r.patterns.keyed e hmem)
    simp [Schema.isExact, hsel, Selector.isExact] at he

/-- What is registered does not depend on the schema of last resort. -/
theorem schemas_after (fallback other : Schema) (commands : List Command) :
    (after other commands).schemas = (after fallback commands).schemas := by
  rw [(Represents.after other commands).shows.schemas,
    (Represents.after fallback commands).shows.schemas]

/-- Selection is the scan. The schema of last resort, whichever it is, is the answer
exactly where nothing that is registered matches; the exact schema for a path always is. -/
theorem select_after (fallback : Schema) (commands : List Command) (path : String) :
    let r := after fallback commands
    r.select path = (r.schemas.find? (·.isMatch path)).getD fallback ∧
      ((∀ other, (after other commands).select path = other) ↔
        ∀ s ∈ r.schemas, s.isMatch path = false) ∧
      (∀ s ∈ r.schemas, s.isExact = true → s.path = path → r.select path = s) ∧
      ((r.select path).isMatch path = true ∨ r.select path = fallback) := by
  intro r
  have hfallback : r.fallback = fallback := fallback_after fallback commands
  have hselect : r.select path = (r.scan path).getD fallback := by
    rw [select_eq_scan, hfallback]
  have hother (other : Schema) :
      (after other commands).select path = (r.scan path).getD other := by
    rw [select_eq_scan, fallback_after, scan, schemas_after fallback, ← scan]
  refine ⟨hselect, ⟨fun h => ?_, fun h other => ?_⟩, fun s hs he hp => ?_, ?_⟩
  · -- a schema that is found would have to be two different schemas of last resort
    rw [← scan_eq_none_iff]
    cases hs : r.scan path with
    | none => rfl
    | some s =>
      have hpermissive := (hother DefaultMode.permissive.schema).symm.trans (h _)
      have hstrict := (hother DefaultMode.strict.schema).symm.trans (h _)
      rw [hs, Option.getD_some] at hpermissive hstrict
      cases congrArg Schema.canBeDeleted (hpermissive.symm.trans hstrict)
  · rw [hother, (scan_eq_none_iff r path).2 h, Option.getD_none]
  · rw [hselect, scan_of_exact r path hs he hp, Option.getD_some]
  · rw [hselect]
    cases hs : r.scan path with
    | none => exact .inr rfl
    | some s => exact .inl (scan_eq_some r path hs).2

end Registry

end PathPolicy
