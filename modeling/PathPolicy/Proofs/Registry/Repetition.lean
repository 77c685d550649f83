import PathPolicy.Proofs.Registry.Order

/-! Registering the same schemas again. The first pass gives each selector its place and leaves the
last definition of it there. The second one puts earlier definitions in again for a while, but
moves nothing, and the last ones are the same. -/

namespace PathPolicy

variable [Host]

namespace Roster

variable {l : Roster} {schemas : List Schema}

theorem has_enterAll (l : Roster) (schemas : List Schema) (selector : Selector) :
    has (schemas.foldl enter l) selector = (l.has selector || has schemas selector) := by
  induction schemas generalizing l with
  | nil => exact (Bool.or_false _).symm
  | cons s rest ih => rw [List.foldl_cons, ih, has_enter, has_cons, Bool.or_assoc]

theorem selector_renewed (schemas : List Schema) (s : Schema) :
    (renewed schemas s).selector = s.selector := by
  unfold renewed
  cases h : schemas.find? (·.selector = s.selector) with
  | none => rfl
  | some t => simpa using List.find?_some h

/-- Where every selector has its place, entries are renewed by the last definitions of them. -/
theorem enterAll_of_has (h : ∀ s ∈ schemas, l.has s.selector = true) :
    schemas.foldl enter l = l.map (renewed schemas.reverse) := by
  induction schemas using List.reverseRecOn with
  | nil => exact (List.map_id l).symm
  | append_singleton schemas s ih =>
    obtain ⟨hschemas, hs⟩ := List.forall_mem_append.1 h
    -- the last schema is the first one in the reversed list, so it is what renews its entry
    have hplace : has (schemas.foldl enter l) s.selector = true := by
      rw [has_enterAll, hs s (List.mem_singleton_self s), Bool.true_or]
    rw [List.foldl_concat, enter, if_pos hplace, ih hschemas, List.map_map]
    refine List.map_congr_left fun t _ => ?_
    rw [Function.comp_apply, selector_renewed, List.reverse_concat, renewed_cons]
    exact if_congr eq_comm rfl rfl

/-- An entry that was entered is the last definition already. -/
theorem renewed_of_mem_enterAll (l : Roster) (schemas : List Schema) :
    ∀ t ∈ schemas.foldl enter l, renewed schemas.reverse t = t := by
  induction schemas using List.reverseRecOn with
  | nil => exact fun t _ => rfl
  | append_singleton schemas s ih =>
    intro t ht
    rw [List.foldl_concat] at ht
    rw [List.reverse_concat, renewed_cons]
    rcases mem_enter ht with rfl | ⟨ht, hne⟩
    · exact if_pos rfl
    · rw [if_neg (Ne.symm hne), ih t ht]

theorem enterAll_enterAll (l : Roster) (schemas : List Schema) :
    schemas.foldl enter (schemas.foldl enter l) = schemas.foldl enter l := by
  have hplaces : ∀ s ∈ schemas, has (schemas.foldl enter l) s.selector = true := by
    intro s hs
    rw [has_enterAll, has_iff.2 ⟨s, hs, rfl⟩, Bool.or_true]
  calc schemas.foldl enter (schemas.foldl enter l)
      = (schemas.foldl enter l).map (renewed schemas.reverse) := enterAll_of_has hplaces
    _ = (schemas.foldl enter l).map id := List.map_congr_left (renewed_of_mem_enterAll l schemas)
    _ = schemas.foldl enter l := List.map_id _

theorem find?_enter_self (l : Roster) (s : Schema) :
    (l.enter s).find? (·.selector = s.selector) = some s := by
  cases h : (l.enter s).find? (·.selector = s.selector) with
  | none =>
    have hs : has (l.enter s) s.selector = true := by simp [has_enter]
    obtain ⟨t, ht, hts⟩ := has_iff.1 hs
    exact absurd hts (by simpa using List.find?_eq_none.1 h t ht)
  | some t =>
    rcases mem_enter (List.mem_of_find?_eq_some h) with rfl | ⟨-, hne⟩
    · rfl
    · exact absurd (by simpa using List.find?_some h) hne

theorem find?_enter_of_ne {s : Schema} {selector : Selector} (hne : s.selector ≠ selector)
    (l : Roster) : (l.enter s).find? (·.selector = selector) =
      l.find? (·.selector = selector) := by
  unfold enter
  split
  · have hkept : (fun t : Schema => decide (t.selector = selector)) ∘
        (fun t => if t.selector = s.selector then s else t) =
          fun t => decide (t.selector = selector) := by
      funext t
      rw [Function.comp_apply, selector_replaced]
    rw [List.find?_map, hkept]
    cases hfind : l.find? (·.selector = selector) with
    | none => rfl
    | some t =>
      have ht : t.selector = selector := by simpa using List.find?_some hfind
      rw [Option.map_some, if_neg (ht ▸ Ne.symm hne)]
  · rw [List.find?_append, List.find?_singleton, decide_eq_false hne]
    exact Option.or_none

/-- The last definition of a selector stands in its place. -/
theorem find?_enterAll (l : Roster) (schemas : List Schema) (selector : Selector) :
    (schemas.foldl enter l).find? (·.selector = selector) =
      (schemas.reverse.find? (·.selector = selector)).or (l.find? (·.selector = selector)) := by
  induction schemas using List.reverseRecOn with
  | nil => rfl
  | append_singleton schemas s ih =>
    rw [List.foldl_concat, List.reverse_concat, List.find?_cons]
    by_cases hs : s.selector = selector
    · subst hs
      rw [find?_enter_self, decide_eq_true rfl]
      rfl
    · rw [find?_enter_of_ne hs, ih, decide_eq_false hs]

end Roster

namespace Shelf

variable {κ : Type} {key? : Selector → Option κ}

/-- A shelf is known by its schemas, since its keys are read off them. -/
theorem eq_of_schemas {a b : Shelf key?} (h : a.schemas = b.schemas) : a = b := by
  have hkeys (c : Shelf key?) : c.keys.map some = c.schemas.map (key? ·.selector) := by
    rw [keys, schemas, List.map_map, List.map_map]
    exact List.map_congr_left fun e he => (c.keyed e he).symm
  have hkey : a.keys = b.keys :=
    (List.map_inj_right fun _ _ => Option.some.inj).1 (by rw [hkeys, hkeys, h])
  have hslots : a.slots = b.slots := (List.zip_of_prod hkey h).trans (List.zip_of_prod rfl rfl).symm
  cases a
  cases b
  cases hslots
  rfl

end Shelf

namespace Registry

variable {r w : Registry} {l : Roster}

/-- A registry is known by its roster and the schema of last resort. -/
theorem Represents.unique (hr : r.Represents l) (hw : w.Represents l)
    (h : r.fallback = w.fallback) : r = w := by
  have hexact : r.exact = w.exact := Shelf.eq_of_schemas (hr.exact.trans hw.exact.symm)
  have hpatterns : r.patterns = w.patterns :=
    Shelf.eq_of_schemas (hr.patterns.trans hw.patterns.symm)
  cases r
  cases w
  cases h
  cases hexact
  cases hpatterns
  rfl

theorem eq_exact_iff {s : Selector} {e : ExactPath} :
    s = .exact e ↔ s.isExact = true ∧ s.raw = e.path := by
  constructor
  · rintro rfl
    exact ⟨rfl, rfl⟩
  · intro h
    exact Shelf.determines_path? (Selector.path?_eq_some_iff.2 h) (Selector.path?_exact e)

/-- A slot holds the entry of the roster with the selector. -/
theorem Represents.find? (h : r.Represents l) (selector : Selector) :
    r.find? selector = l.find? (·.selector = selector) := by
  cases selector with
  | exact e =>
    rw [Registry.find?, h.get?_exact]
    refine List.find?_congr fun s _ => ?_
    rw [Bool.eq_iff_iff, Bool.and_eq_true, decide_eq_true_iff, decide_eq_true_iff, eq_exact_iff]
    rfl
  | pattern p =>
    rw [Registry.find?, Shelf.get?_eq_find?, h.patterns, List.find?_filter]
    refine List.find?_congr fun s _ => ?_
    rw [Bool.eq_iff_iff, decide_eq_true_iff, decide_eq_true_iff, decide_eq_true_iff,
      Selector.pattern?_eq_some_iff]
    refine ⟨And.right, fun hs => ⟨?_, hs⟩⟩
    rw [Schema.isExact, hs]
    rfl

theorem registerAll_again (r : Registry) (schemas : List Schema) :
    (r.registerAll schemas).registerAll schemas = r.registerAll schemas := by
  have honce := r.represents_schemas.registerAll schemas
  have htwice := honce.registerAll schemas
  rw [Roster.enterAll_enterAll] at htwice
  exact htwice.unique honce (fallback_registerAll _ _)

/-- A set that is registered a second time changes nothing: neither an entry nor its place nor an
answer. Each selector of the set has the last definition in it, and all others what they had. -/
theorem registerSet_again (r : Registry) (set : SchemaSet) :
    let once := r.registerSet set
    let twice := once.registerSet set
    twice = once ∧ (∀ path, twice.select path = once.select path) ∧
      (∀ name, twice.named? name = once.named? name) ∧ twice.schemas = once.schemas ∧
      ∀ selector, twice.find? selector =
        (set.schemas.reverse.find? (·.selector = selector)).or (r.find? selector) := by
  intro once twice
  have hsame : twice = once := registerAll_again r set.schemas
  refine ⟨hsame, fun path => by rw [hsame], fun name => by rw [hsame], by rw [hsame],
    fun selector => ?_⟩
  have honce : once.Represents (set.schemas.foldl Roster.enter r.schemas) :=
    r.represents_schemas.registerAll set.schemas
  rw [hsame, honce.find?, Roster.find?_enterAll, ← r.represents_schemas.find?]

end Registry

end PathPolicy
