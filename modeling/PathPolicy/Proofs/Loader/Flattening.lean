import PathPolicy.Proofs.Loader.Names
import PathPolicy.Proofs.Loader.Repair

/-! Sources that are made of sources. However they are grouped, the directories and the sets in
memory are asked in one order, each load ends at the same one of them, and what is kept, listed and
forgotten is the same as without the groups. -/

namespace PathPolicy

open Files
open DirectoryLoader (Event Answer)
open DirectoryLoader.Scene (spoilt cut prefers_bad)

section

variable [Host]

/-- A load that finds nothing leaves nothing behind. -/
theorem DirectoryLoader.load_of_absent {d : Disk} {l : DirectoryLoader} {name : String}
    (h : l.answer d name = .ok none) : l.load d name = pure (none, l) := by
  unfold answer load at h
  unfold load
  split at h
  · cases h
  · split at h
    · cases h
    · rfl
    · split at h
      · cases h
      · split at h <;> cases h

namespace Loader

variable {d : Disk} {name : String} {l : Loader} {before rest : List Loader}

mutual

/-- The directories and the sets in memory that a source is made of, in the order in which they are
asked. -/
def leaves : Loader → List Loader
  | directory l => [directory l]
  | memory sets => [memory sets]
  | composite loaders => leavesAll loaders

def leavesAll : List Loader → List Loader
  | [] => []
  | l :: rest => leaves l ++ leavesAll rest

end

/-! Loads. -/

theorem loadFirst_nil : loadFirst d name [] = pure (none, []) := by
  rw [loadFirst]
  rfl

theorem loadFirst_cons (l : Loader) (rest : List Loader) :
    loadFirst d name (l :: rest) = load d name l >>= fun r =>
      if r.1.isSome then pure (r.1, r.2 :: rest)
      else (fun q => (q.1, r.2 :: q.2)) <$> loadFirst d name rest := by
  rw [loadFirst]
  rfl

theorem loadFirst_singleton (l : Loader) :
    loadFirst d name [l] = (fun r => (r.1, [r.2])) <$> load d name l := by
  rw [loadFirst_cons, loadFirst_nil, map_eq_pure_bind]
  congr 1
  funext r
  obtain ⟨found, m⟩ := r
  cases found <;> rfl

theorem loadFirst_append (before rest : List Loader) :
    loadFirst d name (before ++ rest) = loadFirst d name before >>= fun r =>
      if r.1.isSome then pure (r.1, r.2 ++ rest)
      else (fun q => (q.1, r.2 ++ q.2)) <$> loadFirst d name rest := by
  induction before with
  | nil =>
    rw [loadFirst_nil, pure_bind]
    exact (id_map (loadFirst d name rest)).symm
  | cons l before ih =>
    rw [List.cons_append, loadFirst_cons, loadFirst_cons, ih, bind_assoc]
    congr 1
    funext r
    obtain ⟨found, m⟩ := r
    cases found with
    | some s => rfl
    | none =>
      simp only [Option.isSome_none, Bool.false_eq_true, if_false, map_bind, bind_map_left]
      congr 1
      funext q
      obtain ⟨found, ms⟩ := q
      cases found with
      | some s => rfl
      | none => simp only [Option.isSome_none, Bool.false_eq_true, if_false, Functor.map_map]; rfl

/-- The groups of a source play no part in a load. -/
theorem load_leaves (l : Loader) :
    (fun r => (r.1, r.2.leaves)) <$> load d name l = loadFirst d name l.leaves := by
  induction l using Loader.induction with
  | hdirectory l =>
    rw [leaves, loadFirst_singleton, load, Functor.map_map, Functor.map_map]
    rfl
  | hmemory sets =>
    rw [leaves, loadFirst_singleton, load]
    rfl
  | hcomposite loaders ih =>
    rw [leaves, load, Functor.map_map]
    show (fun r => (r.1, leavesAll r.2)) <$> loadFirst d name loaders = _
    -- a load that ends among the parts of one source ends at that source in the group
    induction loaders with
    | nil =>
      rw [loadFirst_nil]
      rfl
    | cons l rest ihrest =>
      obtain ⟨hl, hrest⟩ := List.forall_mem_cons.1 ih
      rw [leavesAll, loadFirst_append, ← hl, ← ihrest hrest, loadFirst_cons, map_bind,
        bind_map_left]
      congr 1
      funext r
      obtain ⟨found, m⟩ := r
      cases found with
      | some s => rfl
      | none =>
        simp only [Option.isSome_none, Bool.false_eq_true, if_false, Functor.map_map]
        rfl

/-- Sources that have nothing under the name are passed by. -/
theorem load_of_absent (h : l.answer d name = .ok none) : l.load d name = pure (none, l) := by
  induction l using Loader.induction with
  | hdirectory l =>
    rw [answer_directory] at h
    rw [load, DirectoryLoader.load_of_absent h]
    rfl
  | hmemory sets =>
    rw [answer_memory] at h
    rw [load, Except.ok.inj h]
    rfl
  | hcomposite loaders ih =>
    rw [answer_composite, firstOf_eq_none_iff, List.forall_mem_map] at h
    have hall : loadFirst d name loaders = pure (none, loaders) := by
      induction loaders with
      | nil => exact loadFirst_nil
      | cons l rest ihrest =>
        obtain ⟨hl, hrest⟩ := List.forall_mem_cons.1 h
        rw [loadFirst_cons, ih l List.mem_cons_self hl, pure_bind,
          ihrest (fun m hm => ih m (List.mem_cons_of_mem _ hm)) hrest]
        rfl
    rw [load, hall]
    rfl

theorem loadFirst_of_absent (h : ∀ m ∈ before, m.answer d name = .ok none) (rest : List Loader) :
    loadFirst d name (before ++ rest) =
      (fun r => (r.1, before ++ r.2)) <$> loadFirst d name rest := by
  induction before with
  | nil => exact (id_map (loadFirst d name rest)).symm
  | cons l before ih =>
    obtain ⟨hl, hbefore⟩ := List.forall_mem_cons.1 h
    rw [List.cons_append, loadFirst_cons, load_of_absent hl, pure_bind, ih hbefore]
    simp only [Option.isSome_none, Bool.false_eq_true, if_false, Functor.map_map]
    rfl

/-- A source that has the name, or fails on it, is the last one that is asked. -/
theorem loadFirst_of_answer (h : l.answer d name ≠ .ok none) (rest : List Loader) :
    loadFirst d name (l :: rest) = (fun r => (r.1, r.2 :: rest)) <$> l.load d name := by
  unfold answer at h
  rw [loadFirst_cons]
  revert h
  rcases l.load d name with ⟨e | ⟨found, m⟩, notices⟩
  · exact fun _ => rfl
  · cases found with
    | some s => exact fun _ => rfl
    | none => exact fun h => absurd rfl h

/-! Listings. -/

/-- The groups of a source play no part in a listing. -/
theorem list_leaves (l : Loader) : (listAll d l.leaves).map sortedNames = list d l := by
  induction l using Loader.induction with
  | hdirectory l => rw [leaves, listAll_singleton, sorted_list]
  | hmemory sets => rw [leaves, listAll_singleton, sorted_list]
  | hcomposite loaders ih =>
    rw [leaves, list]
    induction loaders with
    | nil => rfl
    | cons l rest ihrest =>
      obtain ⟨hl, hrest⟩ := List.forall_mem_cons.1 ih
      rw [leavesAll, listAll_append, sorted_joined, hl, ihrest hrest, listAll_cons,
        sorted_joined (list d l) (listAll d rest), sorted_list]

theorem list_composite_leaves (l : Loader) : list d (composite l.leaves) = list d l := by
  rw [list, list_leaves]

/-! Reloads. -/

theorem reloadAll_append (before rest : List Loader) :
    reloadAll (before ++ rest) = reloadAll before ++ reloadAll rest := by
  induction before with
  | nil => rw [reloadAll, List.nil_append, List.nil_append]
  | cons l before ih =>
    rw [List.cons_append, reloadAll, reloadAll, ih, List.cons_append]

theorem leaves_reload (l : Loader) : l.reload.leaves = reloadAll l.leaves := by
  induction l using Loader.induction with
  | hdirectory l => rfl
  | hmemory sets => rfl
  | hcomposite loaders ih =>
    rw [reload, leaves, leaves]
    induction loaders with
    | nil => rfl
    | cons l rest ihrest =>
      obtain ⟨hl, hrest⟩ := List.forall_mem_cons.1 ih
      rw [reloadAll, leavesAll, leavesAll, reloadAll_append, hl, ihrest hrest]

/-! Runs. -/

/-- The files that there are, and a source. -/
structure Scene where
  disk : Disk
  source : Loader

namespace Scene

/-- The source after a load. One that fails leaves no other source. -/
def loaded (s : Scene) (name : String) : Loader :=
  ((s.source.load s.disk name).outcome.toOption.map (·.2)).getD s.source

/-- What an event leaves, and its answer with the notices of it. -/
def step (s : Scene) : Event → Scene × Answer × List Notice
  | .write place bytes => ({ s with disk := s.disk.put place (.file bytes) }, .done, [])
  | .delete place => ({ s with disk := s.disk.remove place }, .done, [])
  | .load name =>
    ({ s with source := s.loaded name }, .set (s.source.answer s.disk name),
      (s.source.load s.disk name).notices)
  | .list => (s, .names (s.source.list s.disk), [])
  | .reload => ({ s with source := s.source.reload }, .done, [])

def after (s : Scene) (events : List Event) : Scene := events.foldl (fun s e => (s.step e).1) s

/-- What the events are answered, in order. -/
def record (s : Scene) : List Event → List (Answer × List Notice)
  | [] => []
  | e :: rest => (s.step e).2 :: (s.step e).1.record rest

/-- The same files, and the parts of the source without its groups. -/
def flat (s : Scene) : Scene := ⟨s.disk, composite s.source.leaves⟩

variable {s : Scene}

theorem load_flat (s : Scene) (name : String) : s.flat.source.load s.disk name =
    (fun r => (r.1, composite r.2.leaves)) <$> s.source.load s.disk name := by
  show load s.disk name (composite s.source.leaves) = _
  rw [load, ← load_leaves, Functor.map_map]

theorem loaded_flat (s : Scene) (name : String) :
    s.flat.loaded name = composite (s.loaded name).leaves := by
  unfold loaded
  rw [show s.flat.disk = s.disk from rfl, load_flat, Logged.outcome_map]
  rcases (s.source.load s.disk name).outcome with e | r <;> rfl

theorem answer_flat (s : Scene) (name : String) :
    s.flat.source.answer s.disk name = s.source.answer s.disk name := by
  rw [answer, load_flat, Logged.outcome_map, answer]
  rcases (s.source.load s.disk name).outcome with e | r <;> rfl

/-- Whatever happens to a source happens to its parts. -/
theorem step_flat (s : Scene) (e : Event) :
    s.flat.step e = ((s.step e).1.flat, (s.step e).2) := by
  cases e with
  | write place bytes => rfl
  | delete place => rfl
  | load name =>
    have hnotices : (s.flat.source.load s.disk name).notices =
        (s.source.load s.disk name).notices := by rw [load_flat, Logged.notices_map]
    have hanswer : s.flat.source.answer s.flat.disk name = s.source.answer s.disk name :=
      s.answer_flat name
    rw [step, hanswer, loaded_flat, step, ← hnotices]
    rfl
  | list =>
    have hlist : s.flat.source.list s.disk = s.source.list s.disk := list_composite_leaves s.source
    rw [step, step, ← hlist]
    rfl
  | reload =>
    have hreload : s.flat.source.reload = composite s.source.reload.leaves := by
      rw [flat, reload, leaves_reload]
    rw [step, step, hreload]
    rfl

theorem after_flat (s : Scene) (events : List Event) :
    s.flat.after events = (s.after events).flat := by
  induction events generalizing s with
  | nil => rfl
  | cons e rest ih =>
    show (s.flat.step e).1.after rest = ((s.step e).1.after rest).flat
    rw [step_flat, ih]

theorem record_flat (s : Scene) (events : List Event) :
    s.flat.record events = s.record events := by
  induction events generalizing s with
  | nil => rfl
  | cons e rest ih => rw [record, record, step_flat, ih]

end Scene

/-- A source that is made of sources and the one that is made of its parts alone have the same
answers in every run, failures and notices included, and the same in each part after it. A part
that comes after the first one with something under a name is not asked for it, whatever it is. What
is listed is the union of what the parts list, in whichever order they come. -/
theorem nesting_flattens (d : Disk) (loaders : List Loader) (events : List Event) :
    let nested : Scene := ⟨d, composite loaders⟩
    let flat : Scene := ⟨d, composite (leavesAll loaders)⟩
    let s := nested.after events
    flat.record events = nested.record events ∧
      flat.after events = ⟨s.disk, composite s.source.leaves⟩ ∧
      (∀ name before l rest, s.source.leaves = before ++ l :: rest →
        (∀ m ∈ before, m.answer s.disk name = .ok none) → l.answer s.disk name ≠ .ok none →
        (fun r => (r.1, r.2.leaves)) <$> s.source.load s.disk name =
          (fun r => (r.1, before ++ r.2 :: rest)) <$> l.load s.disk name) ∧
      (∀ names, s.source.list s.disk = .ok names ↔ Union s.disk s.source.leaves names) ∧
      ∀ sources names, sources.Perm s.source.leaves →
        (list s.disk (composite sources) = .ok names ↔ s.source.list s.disk = .ok names) := by
  intro nested flat s
  have hunion (names : List String) :
      s.source.list s.disk = .ok names ↔ Union s.disk s.source.leaves names := by
    rw [← list_composite_leaves, list_composite_eq_ok_iff]
  refine ⟨nested.record_flat events, nested.after_flat events, ?_, hunion, ?_⟩
  · intro name before l rest hleaves hbefore hl
    rw [load_leaves, hleaves, loadFirst_of_absent hbefore, loadFirst_of_answer hl, Functor.map_map]
  · intro sources names hperm
    rw [list_composite_eq_ok_iff, hunion]
    exact union_perm hperm

end Loader

end

namespace Loader

/-- Two groups. The first source with anything under the name has a file without a document, and a
later one has a set. -/
def groups : List Loader :=
  [composite [memory []],
    composite [directory (spoilt cut).loader, memory [("bad", { name := .str "bad" })]]]

theorem nesting_flattens_malformed :
    let d := (spoilt cut).disk
    let l := directory (spoilt cut).loader
    let rest := [memory [("bad", { name := .str "bad" })]]
    let s := Scene.after ⟨d, composite groups⟩ [.reload]
    s.source.leaves = [memory []] ++ l :: rest ∧
      (∀ m ∈ [memory []], m.answer s.disk "bad" = .ok none) ∧
      l.answer s.disk "bad" ≠ .ok none ∧
      (fun r => (r.1, r.2.leaves)) <$> s.source.load s.disk "bad" =
        (fun r => (r.1, [memory []] ++ r.2 :: rest)) <$> l.load s.disk "bad" := by
  intro d l rest s
  have hleaves : s.source.leaves = [memory []] ++ l :: rest := rfl
  have hbefore : ∀ m ∈ [memory []], m.answer s.disk "bad" = .ok none := by
    intro m hm
    rw [List.mem_singleton.1 hm, answer_memory]
    rfl
  have hl : l.answer s.disk "bad" ≠ .ok none := by
    rw [answer_directory]
    exact DirectoryLoader.answer_ne_none_of_prefers (prefers_bad _)
  exact ⟨hleaves, hbefore, hl,
    (nesting_flattens d groups [.reload]).2.2.1 "bad" [memory []] l rest hleaves hbefore hl⟩

end Loader

end PathPolicy
