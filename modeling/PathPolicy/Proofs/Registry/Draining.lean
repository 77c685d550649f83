import PathPolicy.Proofs.Registry.Locality

/-! Removing by raw path until nothing is left. One text can name an exact path and patterns with
various flags; each removal takes the first of them in the order of the registry and leaves all
other schemas where they are. -/

namespace PathPolicy

namespace Registry

section Erase

variable {α : Type} {p q : α → Bool}

theorem filter_eraseP (l : List α) : (l.eraseP p).filter p = (l.filter p).tail := by
  induction l with
  | nil => rfl
  | cons a rest ih =>
    by_cases ha : p a = true
    · simp [ha]
    · simp [ha, ih]

theorem filter_eraseP_of_not (h : ∀ a, p a = true → q a = false) (l : List α) :
    (l.eraseP p).filter q = l.filter q := by
  induction l with
  | nil => rfl
  | cons a rest ih =>
    by_cases ha : p a = true
    · simp [ha, h a ha]
    · rw [List.eraseP_cons_of_neg ha, List.filter_cons, List.filter_cons, ih]

end Erase

section

variable [Host] {r w : Registry} {l : Roster} {raw : String} {n : ℕ}

/-! One removal. -/

/-- Exact schemas stand before patterns, so a raw path names the first schema that has it. -/
theorem entryFor?_schemas (r : Registry) (raw : String) :
    Roster.entryFor? r.schemas raw = r.schemas.find? (·.path = raw) := by
  have hexact := r.represents_schemas.exact
  have hpatterns := r.represents_schemas.patterns
  have hsplit : r.schemas.find? (·.path = raw) =
      (r.exact.schemas.find? (·.path = raw)).or (r.patterns.schemas.find? (·.path = raw)) :=
    List.find?_append
  rw [hsplit, hexact, hpatterns, List.find?_filter, List.find?_filter, Roster.entryFor?]
  simp only [Bool.decide_and, Bool.decide_eq_true, decide_eq_true_eq]

theorem found_unregisterPath (r : Registry) (raw : String) :
    (r.unregisterPath raw).2 = decide (0 < r.schemas.countP (·.path = raw)) := by
  obtain ⟨-, hanswer⟩ := r.represents_schemas.unregisterPath raw
  rw [hanswer, entryFor?_schemas, Bool.eq_iff_iff, List.find?_isSome, decide_eq_true_iff,
    List.countP_pos_iff]

/-- The first schema with the raw path goes, if there is one. -/
theorem schemas_unregisterPath (r : Registry) (raw : String) :
    (r.unregisterPath raw).1.schemas = r.schemas.eraseP (·.path = raw) := by
  obtain ⟨hrep, hanswer⟩ := r.represents_schemas.unregisterPath raw
  rw [entryFor?_schemas] at hanswer
  cases he : r.schemas.find? (·.path = raw) with
  | none =>
    rw [he] at hanswer
    rw [unregisterPath_of_not_found hanswer, List.eraseP_of_forall_not (List.find?_eq_none.1 he)]
  | some e =>
    obtain ⟨hraw, before, rest, hsplit, hbefore⟩ := List.find?_eq_some_iff_append.1 he
    have hnext : Roster.next r.schemas (.unregisterPath raw) =
        Roster.strike r.schemas e.selector := by
      simp only [Roster.next, entryFor?_schemas, he]
    have hdistinct : Roster.Distinct (before ++ e :: rest) :=
      hsplit ▸ r.represents_schemas.distinct
    rw [schemas_of_strike (hnext ▸ hrep), hsplit, hdistinct.strike_middle,
      List.eraseP_append_right _ (by simpa using hbefore), List.eraseP_cons, hraw, cond_true]

/-! Many removals. -/

/-- `w` is what is left of `r` without the first `n` schemas that have the raw path. -/
structure Drained (r : Registry) (raw : String) (n : ℕ) (w : Registry) : Prop where
  named : w.schemas.filter (·.path = raw) = (r.schemas.filter (·.path = raw)).drop n
  others : w.schemas.filter (·.path ≠ raw) = r.schemas.filter (·.path ≠ raw)
  order : w.schemas.Sublist r.schemas

theorem Drained.unregisterPath (h : Drained r raw n w) :
    Drained r raw (n + 1) (w.unregisterPath raw).1 := by
  constructor
  · rw [schemas_unregisterPath, filter_eraseP, h.named, List.tail_drop]
  · rw [schemas_unregisterPath, filter_eraseP_of_not (by simp), h.others]
  · rw [schemas_unregisterPath]
    exact List.eraseP_sublist.trans h.order

theorem drained_run (r : Registry) (raw : String) (n : ℕ) :
    Drained r raw n (r.run (List.replicate n (.unregisterPath raw))) := by
  induction n with
  | zero => exact ⟨rfl, rfl, List.Sublist.refl _⟩
  | succ n ih =>
    -- the step lemma is about one more removal at the end of the run
    rw [List.replicate_succ', run_append]
    exact ih.unregisterPath

theorem Drained.countP (h : Drained r raw n w) :
    w.schemas.countP (·.path = raw) = r.schemas.countP (·.path = raw) - n := by
  rw [List.countP_eq_length_filter, h.named, List.length_drop, ← List.countP_eq_length_filter]

theorem Represents.filter_path (h : r.Represents l) (raw : String) :
    r.schemas.filter (·.path = raw) =
      (l.filter fun s => s.isExact && s.path = raw) ++
        l.filter fun s => !s.isExact && s.path = raw := by
  rw [h.shows.schemas, List.filter_append, List.filter_filter, List.filter_filter]
  simp only [Bool.and_comm]

/-- The removals of a raw path succeed as often as there are schemas with it and fail ever after.
Each takes one, the exact entry first and then the patterns in the order of registration, and none
touches another schema or its place. -/
theorem unregisterPath_drains (fallback : Schema) (commands : List Command) (raw : String)
    (n : ℕ) :
    let r := after fallback commands
    let l := Roster.run commands
    let k := r.schemas.countP (·.path = raw)
    let w := r.run (List.replicate n (.unregisterPath raw))
    let next := w.unregisterPath raw
    next.2 = decide (n < k) ∧
      next.1.count + (if n < k then 1 else 0) = w.count ∧
      w.schemas.filter (·.path = raw) =
        ((l.filter fun s => s.isExact && s.path = raw) ++
          l.filter fun s => !s.isExact && s.path = raw).drop n ∧
      w.schemas.filter (·.path ≠ raw) = r.schemas.filter (·.path ≠ raw) ∧
      w.schemas.Sublist r.schemas ∧
      (k ≤ n → next.1 = w ∧ ∀ s ∈ w.schemas, s.path ≠ raw) := by
  intro r l k w next
  have hdrained : Drained r raw n w := drained_run r raw n
  have hleft : w.schemas.countP (·.path = raw) = k - n := hdrained.countP
  have hfound : next.2 = decide (n < k) := by
    rw [found_unregisterPath, hleft]
    exact decide_eq_decide.2 Nat.sub_pos_iff_lt
  have hnamed := (Represents.after fallback commands).filter_path raw
  refine ⟨hfound, ?_, hnamed ▸ hdrained.named, hdrained.others, hdrained.order, fun hk => ?_⟩
  · rw [count_eq_length, count_eq_length, schemas_unregisterPath]
    by_cases hn : n < k
    · have hpos : 0 < w.schemas.countP (·.path = raw) := by omega
      obtain ⟨s, hs, hraw⟩ := List.countP_pos_iff.1 hpos
      rw [if_pos hn, List.length_eraseP_add_one hs hraw]
    · have hzero : w.schemas.countP (·.path = raw) = 0 := by omega
      rw [if_neg hn, List.eraseP_of_forall_not (List.countP_eq_zero.1 hzero)]
      rfl
  · have hzero : w.schemas.countP (·.path = raw) = 0 := by omega
    rw [decide_eq_false (by omega)] at hfound
    refine ⟨congrArg Prod.fst (unregisterPath_of_not_found hfound), ?_⟩
    simpa using List.countP_eq_zero.1 hzero

end

/-- The pattern for one path, with another flag. -/
def letterAcross : PathPattern :=
  { letterA with
    flags := 16
    program := ⟨48, 0, .cat (.char 0x2F) (.char 0x61)⟩
    compiled := by rfl }

/-- Three schemas with one raw path, and another one between them. -/
theorem unregisterPath_drains_letterA :
    let commands : List Command := [.register (permitting (.pattern letterA)),
      .register (permitting (.pattern letterAcross)),
      .register (permitting (.exact ⟨"/b", by rfl⟩)),
      .register (permitting (.exact ⟨"/a", by rfl⟩))]
    let r := after DefaultMode.strict.schema commands
    let w := r.run (List.replicate 3 (.unregisterPath "/a"))
    r.schemas.countP (·.path = "/a") = 3 ∧ (w.unregisterPath "/a").2 = false ∧
      (w.unregisterPath "/a").1 = w ∧ ∀ s ∈ w.schemas, s.path ≠ "/a" := by
  intro commands r w
  have hcount : r.schemas.countP (·.path = "/a") = 3 := by decide
  obtain ⟨hfound, -, -, -, -, hend⟩ :=
    unregisterPath_drains DefaultMode.strict.schema commands "/a" 3
  exact ⟨hcount, hfound.trans (decide_eq_false hcount.not_gt), hend hcount.le⟩

end Registry

end PathPolicy
