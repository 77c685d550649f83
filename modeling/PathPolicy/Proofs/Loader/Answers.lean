import PathPolicy.Proofs.Loader.History
import PathPolicy.Proofs.PolicyFile.Grammar

/-! What a source answers, whichever kind it is. On files that stay as they are, an answer does not
depend on the loads that came before it. -/

namespace PathPolicy

open Files

theorem Loader.exists_of_map_eq_ok {ε α β : Type} {f : α → β} {x : Except ε α} {b : β}
    (h : x.map f = .ok b) : ∃ a, x = .ok a ∧ f a = b := by
  cases x with
  | ok a => exact ⟨a, rfl, Except.ok.inj h⟩
  | error e => cases h

variable [Host] {d : Disk} {name : String}

namespace DirectoryLoader

variable {l : DirectoryLoader} {n : String}

/-- What a load keeps is what would be answered anyway. -/
theorem answer_of_load {m : DirectoryLoader} {found : Option SchemaSet}
    (h : (l.load d name).outcome = .ok (found, m)) (other : String) :
    m.answer d other = l.answer d other := by
  rcases load_cases d l name with ⟨s, hnone, hl⟩ | ⟨_, -, hl⟩ | ⟨e, -, hl⟩
  · obtain ⟨rfl, rfl⟩ := Prod.mk.inj (Except.ok.inj (h.symm.trans hl))
    by_cases hn : other = name
    · subst hn
      rw [answer_of_kept (s := s) (by simp), answer, hl]
      rfl
    · have hlookup : List.lookup other ((name, s) :: l.cache) = l.cache.lookup other := by
        rw [List.lookup_cons, beq_eq_false_iff_ne.2 hn]
      cases hother : l.cache.lookup other with
      | some t => rw [answer_of_kept hother, answer_of_kept (hlookup.trans hother)]
      | none => exact answer_eq_of_not_kept (hlookup.trans hother) hother rfl rfl
  · obtain ⟨-, rfl⟩ := Prod.mk.inj (Except.ok.inj (h.symm.trans hl))
    rfl
  · cases h.symm.trans hl

/-- A file that exists is given or is an error. -/
theorem answer_of_prefers {p : Path} (hkept : l.cache.lookup name = none)
    (h : Prefers d l name p) : (∃ f, l.answer d name = .error (.fault f)) ∨
      (∃ bytes e, l.parse name p bytes = .error e ∧ l.answer d name = .error e) ∨
        ∃ set, l.answer d name = .ok (some set) := by
  have hcurrent := current_of_not_kept (d := d) hkept
  cases hread : d.read p with
  | error f => exact .inl ⟨f, hcurrent.unreadable p f h hread⟩
  | ok bytes =>
    cases hparse : l.parse name p bytes with
    | error e => exact .inr (.inl ⟨bytes, e, hparse, hcurrent.malformed p bytes e h hread hparse⟩)
    | ok set =>
      cases hname : set.name.unwritable? with
      | none => exact .inr (.inr ⟨set, hcurrent.parsed p bytes set h hread hparse hname⟩)
      | some f => exact .inl ⟨f, hcurrent.unnamed p bytes set f h hread hparse hname⟩

theorem answer_ne_none_of_prefers {p : Path} (h : Prefers d l name p) :
    l.answer d name ≠ .ok none := by
  cases hkept : l.cache.lookup name with
  | some set => simp [answer_of_kept hkept]
  | none =>
    rcases answer_of_prefers hkept h with ⟨f, h⟩ | ⟨_, e, -, h⟩ | ⟨set, h⟩ <;> simp [h]

/-- Each path of a name was found to exist or not to. -/
def Told (d : Disk) (l : DirectoryLoader) (name : String) : Prop := ∀ f, ¬Untellable d l name f

theorem absent_or_prefers (htold : Told d l name) :
    (∀ e ∈ endings, d.contains (l.file name e) = .ok false) ∨
      ∃ e ∈ endings, d.contains (l.file name e) = .ok true ∧ Prefers d l name (l.file name e) := by
  rcases hfirst : d.contains (l.file name ".yml") with f | _ | _
  · exact (htold f (.inl hfirst)).elim
  · rcases hsecond : d.contains (l.file name ".yaml") with f | _ | _
    · exact (htold f (.inr ⟨hfirst, hsecond⟩)).elim
    · left
      intro e he
      rcases List.mem_pair.1 he with rfl | rfl
      · exact hfirst
      · exact hsecond
    · exact .inr ⟨".yaml", by simp [endings], hsecond, .second hfirst hsecond⟩
  · exact .inr ⟨".yml", by simp [endings], hfirst, .first hfirst⟩

/-- Nothing is there for a name only if neither of its files exists. -/
theorem absent_of_answer (h : l.answer d name = .ok none) :
    ∀ e ∈ endings, d.contains (l.file name e) = .ok false := by
  have hkept : l.cache.lookup name = none := by
    cases hkept : l.cache.lookup name with
    | none => rfl
    | some set => cases (answer_of_kept hkept).symm.trans h
  have htold : Told d l name := fun f hf =>
    by cases ((current_of_not_kept hkept).untellable f hf).symm.trans h
  rcases absent_or_prefers htold with habsent | ⟨e, -, -, hprefers⟩
  · exact habsent
  · exact (answer_ne_none_of_prefers hprefers h).elim

/-- If it can be told, what is not nothing is a file that exists. -/
theorem exists_file_of_answer (hkept : l.cache.lookup name = none) (htold : Told d l name)
    (h : l.answer d name ≠ .ok none) : ∃ e ∈ endings, d.contains (l.file name e) = .ok true := by
  rcases absent_or_prefers htold with habsent | ⟨e, he, hexists, -⟩
  · exact (h ((current_of_not_kept hkept).absent (habsent _ (by simp [endings]))
      (habsent _ (by simp [endings])))).elim
  · exact ⟨e, he, hexists⟩

/-! No answer is that a set was not found; only who asks for it says so. -/

theorem parse_ne_setNotFound {p : Path} {bytes : List UInt8} :
    l.parse name p bytes ≠ .error (.definition (.setNotFound n)) := by
  unfold parse
  cases Host.readDocument bytes with
  | ok v =>
    show SchemaSet.ofValue v name l.validators ≠ _
    cases v with
    | map fields =>
      rcases SchemaSet.ofValue_map name l.validators fields with hv | ⟨set, hv⟩
      · simp [hv]
      · rw [hv]
        intro h
        cases hentries :
          SchemaSet.entries name l.validators (SchemaSet.entriesOf (.map fields)) with
        | ok schemas => simp [hentries, Except.map] at h
        | error e =>
          simp only [hentries, Except.map, Except.error.injEq] at h
          subst h
          obtain ⟨_, _, _, -, -, he, -⟩ := SchemaSet.first_of_entries_eq_error hentries
          cases he
    | _ => simp [SchemaSet.ofValue]
  | error e => cases e <;> simp

theorem answer_ne_setNotFound : l.answer d name ≠ .error (.definition (.setNotFound n)) := by
  cases hkept : l.cache.lookup name with
  | some set => simp [answer_of_kept hkept]
  | none =>
    by_cases htold : Told d l name
    · rcases absent_or_prefers htold with habsent | ⟨e, -, -, hprefers⟩
      · simp [(current_of_not_kept hkept).absent (habsent _ (by simp [endings]))
          (habsent _ (by simp [endings]))]
      · rcases answer_of_prefers hkept hprefers with ⟨f, h⟩ | ⟨_, e, hparse, h⟩ | ⟨set, h⟩
        · simp [h]
        · rw [h]
          rintro ⟨⟩
          exact parse_ne_setNotFound hparse
        · simp [h]
    · obtain ⟨f, hf⟩ := not_forall_not.1 htold
      simp [(current_of_not_kept hkept).untellable f hf]

end DirectoryLoader

namespace Loader

/-- A source is a directory, sets in memory, or made of sources. -/
theorem induction {P : Loader → Prop} (hdirectory : ∀ l, P (directory l))
    (hmemory : ∀ sets, P (memory sets))
    (hcomposite : ∀ loaders, (∀ l ∈ loaders, P l) → P (composite loaders)) (l : Loader) : P l :=
  @Loader.rec _ P (fun loaders => ∀ l ∈ loaders, P l) hdirectory hmemory hcomposite (by simp)
    (fun _ _ hl hrest => List.forall_mem_cons.2 ⟨hl, hrest⟩) l

/-- What a load answers, without the source after it. -/
def answer (d : Disk) (l : Loader) (name : String) : Except Failure (Option SchemaSet) :=
  (l.load d name).outcome.map (·.1)

/-- The first answer that is not that nothing is there. -/
def firstOf : List (Except Failure (Option SchemaSet)) → Except Failure (Option SchemaSet)
  | [] => .ok none
  | .ok none :: rest => firstOf rest
  | a :: _ => a

theorem firstOf_eq_none_iff {answers : List (Except Failure (Option SchemaSet))} :
    firstOf answers = .ok none ↔ ∀ a ∈ answers, a = .ok none := by
  induction answers with
  | nil => simp [firstOf]
  | cons a rest ih =>
    rcases a with e | _ | s
    · simp [firstOf]
    · simpa [firstOf] using ih
    · simp [firstOf]

theorem outcome_directory (l : DirectoryLoader) : ((directory l).load d name).outcome =
    (l.load d name).outcome.map fun r => (r.1, directory r.2) := by
  rw [load, Logged.outcome_map]

theorem outcome_composite (loaders : List Loader) : ((composite loaders).load d name).outcome =
    (loadFirst d name loaders).outcome.map fun r => (r.1, composite r.2) := by
  rw [load, Logged.outcome_map]

/-- The first source that has the name leaves the later ones as they were. -/
theorem outcome_loadFirst_cons (l : Loader) (rest : List Loader) :
    (loadFirst d name (l :: rest)).outcome = (l.load d name).outcome.bind fun r =>
      if r.1.isSome then .ok (r.1, r.2 :: rest)
      else (loadFirst d name rest).outcome.map fun q => (q.1, r.2 :: q.2) := by
  rw [loadFirst, Logged.outcome_bind]
  congr 1
  funext r
  obtain ⟨found, m⟩ := r
  cases found with
  | some s => rfl
  | none => exact Logged.outcome_map (fun q => (q.1, m :: q.2)) (loadFirst d name rest)

theorem answer_directory (l : DirectoryLoader) : (directory l).answer d name = l.answer d name := by
  rw [answer, outcome_directory, DirectoryLoader.answer]
  cases (l.load d name).outcome <;> rfl

theorem answer_memory (sets : NamedSets) : (memory sets).answer d name = .ok (sets.lookup name) := by
  rw [answer, load]
  rfl

theorem answer_loadFirst (loaders : List Loader) :
    (loadFirst d name loaders).outcome.map (·.1) = firstOf (loaders.map (·.answer d name)) := by
  induction loaders with
  | nil =>
    rw [loadFirst]
    rfl
  | cons l rest ih =>
    rw [outcome_loadFirst_cons, List.map_cons, answer]
    cases (l.load d name).outcome with
    | error e => rfl
    | ok r =>
      obtain ⟨found, m⟩ := r
      cases found with
      | some s => rfl
      | none =>
        show _ = firstOf (rest.map (·.answer d name))
        rw [← ih]
        show ((loadFirst d name rest).outcome.map _).map _ = _
        cases (loadFirst d name rest).outcome <;> rfl

theorem answer_composite (loaders : List Loader) :
    (composite loaders).answer d name = firstOf (loaders.map (·.answer d name)) := by
  rw [← answer_loadFirst, answer, outcome_composite]
  cases (loadFirst d name loaders).outcome <;> rfl

/-- No later answer depends on a load. -/
def Steady (d : Disk) (l : Loader) : Prop :=
  ∀ name found m, (l.load d name).outcome = .ok (found, m) →
    ∀ other, m.answer d other = l.answer d other

theorem steady_loadFirst {loaders : List Loader} (h : ∀ l ∈ loaders, l.Steady d)
    {found : Option SchemaSet} {after : List Loader}
    (hload : (loadFirst d name loaders).outcome = .ok (found, after)) (other : String) :
    after.map (·.answer d other) = loaders.map (·.answer d other) := by
  induction loaders generalizing found after with
  | nil =>
    rw [loadFirst] at hload
    cases hload
    rfl
  | cons l rest ih =>
    obtain ⟨hl, hrest⟩ := List.forall_mem_cons.1 h
    rw [outcome_loadFirst_cons] at hload
    cases hfirst : (l.load d name).outcome with
    | error e =>
      rw [hfirst] at hload
      cases hload
    | ok r =>
      obtain ⟨r, m⟩ := r
      have hm : m.answer d other = l.answer d other := hl name r m hfirst other
      rw [hfirst] at hload
      cases r with
      | some s =>
        cases hload
        rw [List.map_cons, List.map_cons, hm]
      | none =>
        obtain ⟨q, hsecond, hq⟩ := exists_of_map_eq_ok hload
        cases hq
        rw [List.map_cons, List.map_cons, hm, ih hrest hsecond]

theorem steady (d : Disk) (l : Loader) : l.Steady d := by
  induction l using Loader.induction with
  | hdirectory l =>
    intro name found m h other
    rw [outcome_directory] at h
    obtain ⟨r, hl, hr⟩ := exists_of_map_eq_ok h
    cases hr
    rw [answer_directory, answer_directory, DirectoryLoader.answer_of_load hl]
  | hmemory sets =>
    intro name found m h other
    rw [load] at h
    cases h
    rfl
  | hcomposite loaders ih =>
    intro name found m h other
    rw [outcome_composite] at h
    obtain ⟨r, hl, hr⟩ := exists_of_map_eq_ok h
    cases hr
    rw [answer_composite, answer_composite, steady_loadFirst ih hl]

theorem firstOf_mem (answers : List (Except Failure (Option SchemaSet))) :
    firstOf answers = .ok none ∨ firstOf answers ∈ answers := by
  induction answers with
  | nil => exact .inl rfl
  | cons a rest ih =>
    rcases a with e | _ | s
    · exact .inr (by simp [firstOf])
    · exact ih.imp id (List.mem_cons_of_mem _)
    · exact .inr (by simp [firstOf])

theorem answer_ne_setNotFound (l : Loader) :
    l.answer d name ≠ .error (.definition (.setNotFound n)) := by
  induction l using Loader.induction with
  | hdirectory l =>
    rw [answer_directory]
    exact DirectoryLoader.answer_ne_setNotFound
  | hmemory sets => simp [answer_memory]
  | hcomposite loaders ih =>
    rw [answer_composite]
    rcases firstOf_mem (loaders.map (·.answer d name)) with h | h
    · simp [h]
    · obtain ⟨m, hm, hanswer⟩ := List.mem_map.1 h
      rw [← hanswer]
      exact ih m hm

end Loader

end PathPolicy
