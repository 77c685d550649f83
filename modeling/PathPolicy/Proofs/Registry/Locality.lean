import PathPolicy.Proofs.Registry.Order

/-! Changes to a registry are local. What a registry finds on a path depends on the entries that
match the path and on nothing else, so a schema comes and goes unseen by all other paths; and
where the governing entry is removed, the next one in the order of the registry governs. -/

namespace PathPolicy

namespace Roster

variable [Host] {before rest : Roster} {s : Schema}

theorem strike_append (l k : Roster) (selector : Selector) :
    strike (l ++ k) selector = l.strike selector ++ k.strike selector := List.filter_append _ _

/-- Among distinct entries one goes and all others keep their places. -/
theorem Distinct.strike_middle (h : Distinct (before ++ s :: rest)) :
    Roster.strike (before ++ s :: rest) s.selector = before ++ rest := by
  obtain ⟨-, hafter, hacross⟩ := List.pairwise_append.1 h
  have hbefore : has before s.selector = false :=
    not_has_iff.2 fun t ht => hacross t ht s List.mem_cons_self
  have hrest : has rest s.selector = false :=
    not_has_iff.2 fun t ht => ((List.pairwise_cons.1 hafter).1 t ht).symm
  rw [strike_append, strike_cons, if_pos rfl, strike_eq_self hbefore, strike_eq_self hrest]

end Roster

namespace Registry

section

variable [Host] {r w : Registry} {l k : Roster} {s e : Schema} {path raw : String}

/-- Only the entries that match a path count on it. -/
theorem scan_eq_of_filter (hr : r.Represents l) (hw : w.Represents k)
    (h : k.filter (·.isMatch path) = l.filter (·.isMatch path)) : w.scan path = r.scan path := by
  have hfilter (m : Roster) (kind : Schema → Bool) :
      (m.find? fun s => kind s && s.isMatch path) = (m.filter (·.isMatch path)).find? kind := by
    simp only [List.find?_filter, Bool.decide_and, Bool.decide_eq_true, Bool.and_comm]
  rw [hr.scan, hw.scan, hfilter k (·.isExact), hfilter k (!·.isExact), h,
    hfilter l (·.isExact), hfilter l (!·.isExact)]

theorem select_register_of_not_match (h : s.isMatch path = false) :
    (r.register s).select path = r.select path := by
  have hkept := Roster.filter_enter_of_not (·.isMatch path) r.schemas (ne_true_of_eq_false h)
  rw [select_eq_scan, select_eq_scan, fallback_register,
    scan_eq_of_filter r.represents_schemas (r.represents_schemas.register s) hkept]

theorem select_unregister_of_not_match (h : s.isMatch path = false) :
    (r.unregister s.selector).select path = r.select path := by
  have hkept := Roster.filter_strike_of_not (·.isMatch path) r.schemas (ne_true_of_eq_false h)
  rw [select_eq_scan, select_eq_scan, fallback_unregister,
    scan_eq_of_filter r.represents_schemas (r.represents_schemas.unregister s.selector) hkept]

/-- A removal leaves the others in the order of the registry. -/
theorem schemas_of_strike (hw : w.Represents (Roster.strike r.schemas s.selector)) :
    w.schemas = Roster.strike r.schemas s.selector := by
  have hexact := Roster.filter_strike Selector.isExact r.schemas s.selector
  have hpatterns := Roster.filter_strike (!·.isExact) r.schemas s.selector
  have hschemas := r.represents_schemas.shows.schemas
  calc w.schemas
      = Roster.strike (r.schemas.filter (·.isExact)) s.selector ++
          Roster.strike (r.schemas.filter (!·.isExact)) s.selector := by
        rw [hw.shows.schemas]
        exact congrArg₂ (· ++ ·) hexact hpatterns
    _ = Roster.strike r.schemas s.selector := by rw [← Roster.strike_append, ← hschemas]

theorem unregisterPath_of_not_found (h : (r.unregisterPath raw).2 = false) :
    r.unregisterPath raw = (r, false) := by
  unfold unregisterPath at h ⊢
  by_cases hexact : (r.exact.get? raw).isSome = true
  · rw [if_pos hexact] at h
    cases h
  · rw [if_neg hexact] at h ⊢
    cases hpattern : r.patterns.keys.find? (·.source = raw) with
    | some p =>
      rw [hpattern] at h
      cases h
    | none => rfl

/-- A raw path removes one entry, which has this path, or nothing. -/
theorem unregisterPath_cases (r : Registry) (raw : String) :
    r.unregisterPath raw = (r, false) ∨
      ∃ before e rest, (r.unregisterPath raw).2 = true ∧ e.path = raw ∧
        r.schemas = before ++ e :: rest ∧ (r.unregisterPath raw).1.schemas = before ++ rest := by
  obtain ⟨hrep, hanswer⟩ := r.represents_schemas.unregisterPath raw
  cases he : Roster.entryFor? r.schemas raw with
  | none =>
    rw [he] at hanswer
    exact .inl (unregisterPath_of_not_found hanswer)
  | some e =>
    rw [he] at hanswer
    obtain ⟨before, rest, hsplit⟩ := List.append_of_mem (Roster.entryFor?_mem he)
    have hnext : Roster.next r.schemas (.unregisterPath raw) =
        Roster.strike r.schemas e.selector := by
      simp only [Roster.next, he]
    have hdistinct : Roster.Distinct (before ++ e :: rest) :=
      hsplit ▸ r.represents_schemas.distinct
    refine .inr ⟨before, e, rest, hanswer, Roster.path_of_entryFor? he, hsplit, ?_⟩
    rw [schemas_of_strike (hnext ▸ hrep), hsplit, hdistinct.strike_middle]

/-- Where one entry is missing the paths that it governed go to the next entry. -/
theorem select_of_missing {before rest : List Schema} (hr : r.schemas = before ++ e :: rest)
    (hw : w.schemas = before ++ rest) (hfallback : w.fallback = r.fallback) (path : String) :
    (w.select path ≠ r.select path → r.select path = e) ∧
      (r.select path = e → w.select path = (rest.find? (·.isMatch path)).getD r.fallback) := by
  rw [select_eq_scan, select_eq_scan, hfallback, scan, scan, hr, hw, List.find?_append,
    List.find?_append]
  cases hbefore : before.find? (·.isMatch path) with
  | some u =>
    have hu : u ∈ before := List.mem_of_find?_eq_some hbefore
    have hne : u ≠ e := by
      have hdistinct : Roster.Distinct (before ++ e :: rest) :=
        hr ▸ r.represents_schemas.distinct
      rintro rfl
      exact (List.pairwise_append.1 hdistinct).2.2 u hu u List.mem_cons_self rfl
    exact ⟨fun h => absurd rfl h, fun h => absurd h hne⟩
  | none =>
    rw [List.find?_cons]
    cases e.isMatch path with
    | true => exact ⟨fun _ => rfl, fun _ => rfl⟩
    | false => exact ⟨fun h => absurd rfl h, fun _ => rfl⟩

/-- A schema comes and goes unseen by the paths that it does not match, and an entry that is
removed by its raw path changes the answer only where it was the answer: to the next entry in
the order of the registry that matches, or to the schema of last resort. -/
theorem select_local (r : Registry) (path : String) :
    (∀ s : Schema, s.isMatch path = false →
      (r.register s).select path = r.select path ∧
        (r.unregisterSchema s).1.select path = r.select path) ∧
    ∀ raw : String, r.unregisterPath raw = (r, false) ∨
      ∃ before e rest, (r.unregisterPath raw).2 = true ∧ e.path = raw ∧
        r.schemas = before ++ e :: rest ∧ (r.unregisterPath raw).1.schemas = before ++ rest ∧
        ((r.unregisterPath raw).1.select path ≠ r.select path → r.select path = e) ∧
        (r.select path = e → (r.unregisterPath raw).1.select path =
          (rest.find? (·.isMatch path)).getD r.fallback) := by
  refine ⟨fun s h => ⟨select_register_of_not_match h, select_unregister_of_not_match h⟩,
    fun raw => ?_⟩
  rcases unregisterPath_cases r raw with hsame | ⟨before, e, rest, hfound, hraw, hr, hw⟩
  · exact .inl hsame
  · have hfallback := fallback_unregisterPath r raw
    exact .inr ⟨before, e, rest, hfound, hraw, hr, hw, select_of_missing hr hw hfallback path⟩

end

/-- Behind the pattern that is removed the other one for the same path is found. -/
theorem select_local_letterA :
    let r := ((empty DefaultMode.strict.schema).register (permitting (.pattern letterA))).register
      (permitting (.pattern oneSign))
    let other := permitting (.exact ⟨"/b", by rfl⟩)
    (other.isMatch "/a" = false ∧ (r.register other).select "/a" = r.select "/a" ∧
        (r.unregisterSchema other).1.select "/a" = r.select "/a") ∧
      r.select "/a" = permitting (.pattern letterA) ∧
      (r.unregisterPath "/a").1.select "/a" = permitting (.pattern oneSign) := by
  intro r other
  have hother : other.isMatch "/a" = false := by decide
  obtain ⟨hkept, hremoved⟩ := select_local r "/a"
  refine ⟨⟨hother, hkept other hother⟩, rfl, ?_⟩
  rcases hremoved "/a" with hsame | ⟨before, e, rest, -, hraw, hsplit, -, -, hnext⟩
  · cases congrArg Prod.snd hsame
  · match before, hsplit with
    | [], hsplit =>
      obtain ⟨rfl, rfl⟩ := List.cons.inj hsplit
      exact hnext rfl
    | [_], hsplit =>
      obtain ⟨rfl, -⟩ := List.cons.inj (List.cons.inj hsplit).2
      exact absurd hraw (by decide)
    | _ :: _ :: _, hsplit =>
      have hlength : 2 = _ := congrArg List.length hsplit
      simp only [List.length_append, List.length_cons] at hlength
      omega

end Registry

end PathPolicy
