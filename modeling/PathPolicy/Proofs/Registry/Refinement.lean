import PathPolicy.Proofs.Registry.Roster

/-! A registry runs like a roster. A key determines the selector it is read off, so what
a shelf does under a key is what the roster of its schemas does with the selector; and the
two shelves of a registry are the exact entries and the pattern entries of one roster. -/

namespace PathPolicy

variable [Host]

namespace Selector

theorem path?_exact (e : ExactPath) : (exact e).path? = some e.path := rfl

theorem pattern?_pattern (p : PathPattern) : (pattern p).pattern? = some p := rfl

theorem path?_eq_some_iff {s : Selector} {path : String} :
    s.path? = some path ↔ s.isExact = true ∧ s.raw = path := by
  cases s <;> simp [path?, isExact, raw]

theorem pattern?_eq_some_iff {s : Selector} {p : PathPattern} :
    s.pattern? = some p ↔ s = .pattern p := by
  cases s <;> simp [pattern?]

end Selector

namespace Shelf

variable {κ : Type} {key? : Selector → Option κ}

/-- No two selectors have the same key. -/
def Determines (key? : Selector → Option κ) : Prop :=
  ∀ ⦃s t : Selector⦄ ⦃k : κ⦄, key? s = some k → key? t = some k → s = t

theorem determines_path? : Determines Selector.path? := by
  intro s t k hs ht
  cases s with
  | pattern p => simp [Selector.path?] at hs
  | exact a =>
    cases t with
    | pattern p => simp [Selector.path?] at ht
    | exact b =>
      obtain ⟨a, ha⟩ := a
      obtain ⟨b, hb⟩ := b
      simp only [Selector.path?, Option.some.injEq] at hs ht
      subst hs ht
      rfl

theorem determines_pattern? : Determines Selector.pattern? := by
  intro s t p hs ht
  rw [Selector.pattern?_eq_some_iff] at hs ht
  rw [hs, ht]

/-- A search among the keys is a search among the schemas. -/
theorem find?_keys (l : Shelf key?) (p : κ → Bool) :
    l.keys.find? p =
      (l.schemas.find? fun s => (key? s.selector).any p).bind fun s => key? s.selector := by
  have hfind : (l.slots.find? fun e => (key? e.2.selector).any p) = l.slots.find? (p ·.1) :=
    List.find?_congr fun e he => by simp [l.keyed e he]
  rw [keys, schemas, List.find?_map, List.find?_map, Function.comp_def, Function.comp_def, hfind]
  cases h : l.slots.find? (p ·.1) with
  | none => rfl
  | some e => exact (l.keyed e (List.mem_of_find?_eq_some h)).symm

/-- Under a fresh key there is no schema with the selector of that key. -/
theorem not_has_of_fresh {k : κ} {selector : Selector} (h : key? selector = some k)
    {slots : List (κ × Schema)} (hk : ∀ e ∈ slots, key? e.2.selector = some e.1)
    (hfresh : k ∉ slots.map (·.1)) : Roster.has (slots.map (·.2)) selector = false := by
  refine Roster.not_has_iff.2 fun t ht heq => hfresh ?_
  obtain ⟨e, he, rfl⟩ := List.mem_map.1 ht
  exact List.mem_map.2 ⟨e, he, Option.some.inj ((hk e he).symm.trans (heq ▸ h))⟩

variable [DecidableEq κ]

/-- A key finds the schema that it is read off. -/
theorem get?_eq_find? (l : Shelf key?) (k : κ) :
    l.get? k = l.schemas.find? fun s => key? s.selector = some k := by
  rw [get?, schemas, List.find?_map]
  congr 1
  exact List.find?_congr fun e he => by simp [l.keyed e he]

theorem isSome_get? (hd : Determines key?) (l : Shelf key?) {k : κ} {selector : Selector}
    (h : key? selector = some k) : (l.get? k).isSome = Roster.has l.schemas selector := by
  rw [get?_eq_find?, Bool.eq_iff_iff, List.find?_isSome, Roster.has_iff]
  constructor
  · rintro ⟨s, hs, hk⟩
    exact ⟨s, hs, hd (of_decide_eq_true hk) h⟩
  · rintro ⟨s, hs, rfl⟩
    exact ⟨s, hs, decide_eq_true h⟩

theorem schemas_putIn (hd : Determines key?) {k : κ} {s : Schema}
    (h : key? s.selector = some k) {slots : List (κ × Schema)}
    (hk : ∀ e ∈ slots, key? e.2.selector = some e.1) (hn : (slots.map (·.1)).Nodup) :
    (putIn k s slots).map (·.2) = Roster.enter (slots.map (·.2)) s := by
  induction slots with
  | nil => rfl
  | cons e rest ih =>
    obtain ⟨he, hrest⟩ := List.forall_mem_cons.1 hk
    obtain ⟨hfresh, hn⟩ := List.nodup_cons.1 hn
    unfold putIn
    rw [List.map_cons, Roster.enter_cons]
    by_cases hek : e.1 = k
    · have hsel : e.2.selector = s.selector := hd he (hek ▸ h)
      have hnone := not_has_of_fresh h hrest (hek ▸ hfresh)
      rw [if_pos hek, if_pos hsel, Roster.replace_eq_self hnone, List.map_cons]
    · have hsel : e.2.selector ≠ s.selector := fun heq =>
        hek (Option.some.inj (he.symm.trans (heq ▸ h)))
      rw [if_neg hek, if_neg hsel, List.map_cons, ih hrest hn]

theorem schemas_put (hd : Determines key?) (l : Shelf key?) (k : κ) (s : Schema)
    (h : key? s.selector = some k) : (l.put k s h).schemas = Roster.enter l.schemas s :=
  schemas_putIn hd h l.keyed l.nodup

theorem schemas_removeFrom (hd : Determines key?) {k : κ} {selector : Selector}
    (h : key? selector = some k) {slots : List (κ × Schema)}
    (hk : ∀ e ∈ slots, key? e.2.selector = some e.1) (hn : (slots.map (·.1)).Nodup) :
    (removeFrom k slots).map (·.2) = Roster.strike (slots.map (·.2)) selector := by
  induction slots with
  | nil => rfl
  | cons e rest ih =>
    obtain ⟨he, hrest⟩ := List.forall_mem_cons.1 hk
    obtain ⟨hfresh, hn⟩ := List.nodup_cons.1 hn
    rw [removeFrom, List.eraseP_cons, List.map_cons, Roster.strike_cons]
    by_cases hek : e.1 = k
    · have hsel : e.2.selector = selector := hd he (hek ▸ h)
      have hnone := not_has_of_fresh h hrest (hek ▸ hfresh)
      simp [hek, hsel, Roster.strike_eq_self hnone]
    · have hsel : e.2.selector ≠ selector := fun heq =>
        hek (Option.some.inj (he.symm.trans (heq ▸ h)))
      have ih := ih hrest hn
      rw [removeFrom] at ih
      simp [hek, hsel, ih]

theorem schemas_remove (hd : Determines key?) (l : Shelf key?) {k : κ} {selector : Selector}
    (h : key? selector = some k) : (l.remove k).schemas = Roster.strike l.schemas selector :=
  schemas_removeFrom hd h l.keyed l.nodup

end Shelf

namespace Registry

theorem register_exact {r : Registry} {s : Schema} {e : ExactPath} (h : s.selector = .exact e) :
    r.register s = { r with exact := r.exact.put e.path s (by rw [h]; rfl) } := by
  unfold register
  split
  · next e' h' =>
    obtain rfl : e' = e := Selector.exact.inj (h'.symm.trans h)
    rfl
  · next p h' => cases h'.symm.trans h

theorem register_pattern {r : Registry} {s : Schema} {p : PathPattern}
    (h : s.selector = .pattern p) :
    r.register s = { r with patterns := r.patterns.put p s (by rw [h]; rfl) } := by
  unfold register
  split
  · next e h' => cases h'.symm.trans h
  · next p' h' =>
    obtain rfl : p' = p := Selector.pattern.inj (h'.symm.trans h)
    rfl

theorem unregister_exact {selector : Selector} {path : String} (r : Registry)
    (h : selector.path? = some path) :
    r.unregister selector = { r with exact := r.exact.remove path } := by
  cases selector with
  | exact e =>
    obtain rfl := Option.some.inj h
    rfl
  | pattern p => cases h

/-- The shelves hold the entries of the roster, each kind in the order of the roster. -/
structure Represents (r : Registry) (l : Roster) : Prop where
  distinct : l.Distinct
  exact : r.exact.schemas = l.filter (·.isExact)
  patterns : r.patterns.schemas = l.filter (!·.isExact)

/-- What a registry shows of a roster: the exact entries, then the pattern entries, and how
many there are. -/
structure Shows (r : Registry) (l : Roster) : Prop where
  schemas : r.schemas = l.filter (·.isExact) ++ l.filter (!·.isExact)
  count : r.count = l.length

theorem count_eq_length (r : Registry) : r.count = r.schemas.length := by
  simp [count, schemas, Shelf.size, Shelf.schemas]

namespace Represents

variable {r : Registry} {l : Roster}

theorem empty (fallback : Schema) : Represents (Registry.empty fallback) [] :=
  ⟨List.Pairwise.nil, rfl, rfl⟩

theorem shows (h : r.Represents l) : r.Shows l := by
  have hschemas : r.schemas = l.filter (·.isExact) ++ l.filter (!·.isExact) := by
    rw [Registry.schemas, h.exact, h.patterns]
  refine ⟨hschemas, ?_⟩
  rw [count_eq_length, hschemas]
  exact (List.filter_append_perm (·.isExact) l).length_eq

theorem register (h : r.Represents l) (s : Schema) : (r.register s).Represents (l.enter s) := by
  have hexact := Roster.filter_enter Selector.isExact l s
  have hpatterns := Roster.filter_enter (!·.isExact) l s
  cases hs : s.selector with
  | exact e =>
    rw [register_exact hs]
    rw [hs] at hexact hpatterns
    refine ⟨h.distinct.enter s, ?_, ?_⟩
    · rw [Shelf.schemas_put Shelf.determines_path?, h.exact]
      exact hexact.symm
    · exact h.patterns.trans hpatterns.symm
  | pattern p =>
    rw [register_pattern hs]
    rw [hs] at hexact hpatterns
    refine ⟨h.distinct.enter s, ?_, ?_⟩
    · exact h.exact.trans hexact.symm
    · rw [Shelf.schemas_put Shelf.determines_pattern?, h.patterns]
      exact hpatterns.symm

theorem registerAll (h : r.Represents l) (schemas : List Schema) :
    (r.registerAll schemas).Represents (schemas.foldl Roster.enter l) := by
  unfold Registry.registerAll
  induction schemas generalizing r l with
  | nil => exact h
  | cons s rest ih => exact ih (h.register s)

theorem unregister (h : r.Represents l) (selector : Selector) :
    (r.unregister selector).Represents (l.strike selector) := by
  have hexact := Roster.filter_strike Selector.isExact l selector
  have hpatterns := Roster.filter_strike (!·.isExact) l selector
  cases selector with
  | exact e =>
    have hkey := Selector.path?_exact e
    have hkind : ¬(!(Selector.exact e).isExact) = true := by simp [Selector.isExact]
    have hkept := Roster.filter_strike_of_not (!·.isExact) l hkind
    refine ⟨h.distinct.strike _, ?_, h.patterns.trans hkept.symm⟩
    rw [Registry.unregister, Shelf.schemas_remove Shelf.determines_path? _ hkey, h.exact]
    exact hexact.symm
  | pattern p =>
    have hkey := Selector.pattern?_pattern p
    have hkind : ¬(Selector.pattern p).isExact = true := by simp [Selector.isExact]
    have hkept := Roster.filter_strike_of_not Selector.isExact l hkind
    refine ⟨h.distinct.strike _, h.exact.trans hkept.symm, ?_⟩
    rw [Registry.unregister, Shelf.schemas_remove Shelf.determines_pattern? _ hkey, h.patterns]
    exact hpatterns.symm

theorem isSome_find? (h : r.Represents l) (selector : Selector) :
    (r.find? selector).isSome = l.has selector := by
  cases selector with
  | exact e =>
    have hkey := Selector.path?_exact e
    rw [Registry.find?, Shelf.isSome_get? Shelf.determines_path? _ hkey, h.exact]
    exact Roster.has_filter Selector.isExact l rfl
  | pattern p =>
    have hkey := Selector.pattern?_pattern p
    rw [Registry.find?, Shelf.isSome_get? Shelf.determines_pattern? _ hkey, h.patterns]
    exact Roster.has_filter (!·.isExact) l rfl

/-- The slot of a path holds the exact entry for it. -/
theorem get?_exact (h : r.Represents l) (path : String) :
    r.exact.get? path = l.find? fun s => s.isExact && s.path = path := by
  rw [Shelf.get?_eq_find?, h.exact, List.find?_filter]
  apply List.find?_congr
  intro s _
  have hkey : s.selector.path? = some path ↔ s.isExact = true ∧ s.path = path :=
    Selector.path?_eq_some_iff
  simp [hkey]

/-- The first pattern with a text is that of the first pattern entry with it. -/
theorem find?_keys (h : r.Represents l) (path : String) :
    (r.patterns.keys.find? (·.source = path)).map Selector.pattern =
      (l.find? fun s => !s.isExact && s.path = path).map (·.selector) := by
  have hkind : ((l.filter (!·.isExact)).find? fun s => s.selector.pattern?.any (·.source = path)) =
      l.find? fun s => !s.isExact && s.path = path := by
    rw [List.find?_filter]
    apply List.find?_congr
    intro s _
    unfold Schema.isExact Schema.path
    cases s.selector with
    | exact e => simp [Selector.isExact]
    | pattern p =>
      by_cases hp : p.source = path <;>
        simp [Selector.isExact, Selector.pattern?, Selector.raw, hp]
  rw [Shelf.find?_keys, h.patterns, hkind]
  cases hs : l.find? fun s => !s.isExact && s.path = path with
  | none => rfl
  | some s =>
    have hp := List.find?_some hs
    unfold Schema.isExact at hp
    rw [Option.bind_some, Option.map_some]
    cases hsel : s.selector with
    | exact e => simp [hsel, Selector.isExact] at hp
    | pattern p => rfl

/-- A path or the text of a pattern names the same entry in both. -/
theorem unregisterPath (h : r.Represents l) (path : String) :
    (r.unregisterPath path).1.Represents (l.next (.unregisterPath path)) ∧
      (r.unregisterPath path).2 = (l.entryFor? path).isSome := by
  have hexact := h.get?_exact path
  have hkeys := h.find?_keys path
  unfold Registry.unregisterPath
  simp only [Roster.next, Roster.entryFor?]
  cases he : l.find? fun s => s.isExact && s.path = path with
  | some s =>
    have hs : s.isExact = true ∧ s.path = path := by simpa using List.find?_some he
    rw [hexact, he, ← unregister_exact r (Selector.path?_eq_some_iff.2 hs)]
    exact ⟨h.unregister s.selector, rfl⟩
  | none =>
    rw [hexact, he]
    cases hp : l.find? fun s => !s.isExact && s.path = path with
    | some s =>
      rw [hp, Option.map_some, Option.map_eq_some_iff] at hkeys
      obtain ⟨p, hfirst, hs⟩ := hkeys
      have hu : (r.unregister (.pattern p)).Represents (l.strike s.selector) := by
        rw [hs]
        exact h.unregister s.selector
      rw [hfirst]
      exact ⟨hu, rfl⟩
    | none =>
      rw [hp, Option.map_none, Option.map_eq_none_iff] at hkeys
      rw [hkeys]
      exact ⟨h, rfl⟩

/-- One command keeps the two in step. -/
theorem step (h : r.Represents l) (c : Command) : (r.step c).1.Represents (l.next c) := by
  cases c with
  | register s => exact h.register s
  | registerAll schemas => exact h.registerAll schemas
  | registerSet set => exact h.registerAll set.schemas
  | unregister s => exact h.unregister s.selector
  | unregisterPath path => exact (h.unregisterPath path).1
  | clear => exact Represents.empty r.fallback

/-- A removal answers as the roster does. -/
theorem answer (h : r.Represents l) (c : Command) : (r.step c).2 = l.answer c := by
  cases c with
  | unregister s =>
    have hlength := h.distinct.length_strike s.selector
    exact congrArg some ((h.isSome_find? s.selector).trans hlength.symm)
  | unregisterPath path =>
    have hlength := h.distinct.length_next_unregisterPath path
    exact congrArg some ((h.unregisterPath path).2.trans hlength.symm)
  | _ => rfl

theorem run (h : r.Represents l) (commands : List Command) :
    (r.run commands).Represents (commands.foldl Roster.next l) := by
  induction commands generalizing r l with
  | nil => exact h
  | cons c rest ih => exact ih (h.step c)

theorem after (fallback : Schema) (commands : List Command) :
    (Registry.after fallback commands).Represents (Roster.run commands) :=
  (Represents.empty fallback).run commands

end Represents

/-- Whatever was done to a registry, it shows the roster of what was done and answers
removals as the roster does; what was removed and is registered again stands at the end. -/
theorem after_refines_roster (fallback : Schema) (commands : List Command) :
    let r := Registry.after fallback commands
    let l := Roster.run commands
    l.Distinct ∧ r.Shows l ∧ (∀ c, (r.step c).2 = l.answer c) ∧
      (∀ s t, t.selector = s.selector →
        ((r.step (.unregister s)).1.step (.register t)).1.Shows (l.strike s.selector ++ [t])) ∧
      ∀ path s t, l.entryFor? path = some s → t.selector = s.selector →
        ((r.step (.unregisterPath path)).1.step (.register t)).1.Shows
          (l.strike s.selector ++ [t]) := by
  intro r l
  have h : r.Represents l := Represents.after fallback commands
  refine ⟨h.distinct, h.shows, h.answer, fun s t ht => ?_, fun path s t hs ht => ?_⟩
  · rw [← ht, ← Roster.enter_strike, ht]
    exact ((h.step (.unregister s)).register t).shows
  · have hnext : l.next (.unregisterPath path) = l.strike s.selector := by
      simp only [Roster.next, hs]
    rw [← ht, ← Roster.enter_strike, ht, ← hnext]
    exact ((h.step (.unregisterPath path)).register t).shows

end Registry

end PathPolicy
