import PathPolicy.Assembly
import PathPolicy.Host.Standard
import PathPolicy.Proofs.Loader.Answers
import PathPolicy.Proofs.PolicyFile.Part
import PathPolicy.Proofs.Registry.Replacement
import PathPolicy.Proofs.Schema.Built

/-! From a configuration to a registry. Loading sets one after another and registering each is
registering all their schemas in one go, since no load changes what the next one gives; and it
ends with the first name that has no set. -/

namespace PathPolicy

open Files

namespace Assembly

/-! The issues of the configuration. -/

variable {issues : List Config.Issue}

/-- All issues up to the first error. -/
def reports (issues : List Config.Issue) : Logged Failure PUnit :=
  forIn issues PUnit.unit fun issue _ => do
    report issue
    pure (.yield PUnit.unit)

theorem reports_cons (issue : Config.Issue) (rest : List Config.Issue) :
    reports (issue :: rest) = (report issue).bind fun _ => reports rest := by
  rw [reports, List.forIn_cons, bind_assoc]
  rfl

theorem reports_of_error {i : Config.Issue} (h : issues.find? (·.isError) = some i) :
    reports issues = ⟨.error (.definition (.badConfiguration i.text i.path)),
      (issues.takeWhile (!·.isError)).map (.configuration ·.text)⟩ := by
  induction issues with
  | nil => cases h
  | cons issue rest ih =>
    rw [reports_cons, report]
    by_cases hissue : issue.isError = true
    · rw [List.find?_cons_of_pos hissue] at h
      cases h
      simp [hissue, Logged.bind]
    · rw [List.find?_cons_of_neg hissue] at h
      simp [hissue, Logged.bind, ih h, Logged.tell]

theorem reports_of_no_error (h : ∀ i ∈ issues, i.isError = false) :
    reports issues = ⟨.ok PUnit.unit, issues.map (.configuration ·.text)⟩ := by
  induction issues with
  | nil => rfl
  | cons issue rest ih =>
    obtain ⟨hissue, hrest⟩ := List.forall_mem_cons.1 h
    rw [reports_cons, report, ih hrest]
    simp [hissue, Logged.bind, Logged.tell]

/-! The sets of some names. -/

section

variable [Host] {d : Disk} {c : Config} {l : Loader} {names : List String}

/-- The set of a name that has to be there. -/
def demand (d : Disk) (l : Loader) (name : String) : Except Failure SchemaSet :=
  (l.answer d name).bind fun found => found.elim (.error (.definition (.setNotFound name))) .ok

theorem demand_of_load {found : Option SchemaSet} {m : Loader} {name : String}
    (h : (l.load d name).outcome = .ok (found, m)) : demand d m = demand d l := by
  funext other
  rw [demand, demand, l.steady d name found m h]

/-- Notices are left unless one cannot be written. -/
theorem outcome_announce (notices : List Notice) : (Logged.announce notices).outcome =
    (notices.findSome? Notice.fault?).elim (.ok ()) fun f => .error (.fault f) := by
  induction notices with
  | nil => rfl
  | cons n rest ih =>
    rw [Logged.announce, List.findSome?_cons]
    cases n.fault? with
    | some f => rfl
    | none => exact ih

/-- What keeps the notices of registering the set from being written. -/
def untold? (r : Registry) (set : SchemaSet) : Option Fault :=
  (r.setAnnouncements set).findSome? Notice.fault?

/-- Registers the set of a name, which has to be there, and all notices of it writable. -/
def enlist (d : Disk) (l : Loader) (r : Registry) (name : String) : Except Failure Registry :=
  (demand d l name).bind fun set =>
    (untold? r set).elim (.ok (r.registerSet set)) fun f => .error (.fault f)

theorem enlist_eq {name : String} (r : Registry) : enlist d l r name =
    (l.load d name).outcome.bind fun x =>
      x.1.elim (.error (.definition (.setNotFound name))) fun set =>
        (untold? r set).elim (.ok (r.registerSet set)) fun f => .error (.fault f) := by
  rw [enlist, demand, Loader.answer]
  rcases (l.load d name).outcome with e | ⟨_ | set, m⟩ <;> rfl

/-- No load changes what is demanded later, so the sets are those that the source gives at first. -/
theorem outcome_addSets (r : Registry) (l : Loader) (names : List String) :
    (names.foldlM (addSet d) (r, l)).outcome.map (·.1) = names.foldlM (enlist d l) r := by
  induction names generalizing r l with
  | nil => rfl
  | cons name rest ih =>
    rw [List.foldlM_cons, Logged.outcome_bind, List.foldlM_cons, addSet, Logged.outcome_bind,
      enlist_eq]
    cases hload : (l.load d name).outcome with
    | error e => rfl
    | ok x =>
      obtain ⟨found, m⟩ := x
      cases found with
      | none => rfl
      | some set =>
        show (((Logged.announce (r.setAnnouncements set) >>= _).outcome.bind _).map _) = _
        rw [Logged.outcome_bind, outcome_announce, ← untold?]
        show _ = ((untold? r set).elim _ _ >>= _)
        cases untold? r set with
        | some f => rfl
        | none =>
          have hrest := ih (r.registerSet set) m
          have hsame : enlist d m = enlist d l := by
            funext r name
            rw [enlist, enlist, demand_of_load hload]
          rw [hsame] at hrest
          exact hrest

/-! The registry. -/

theorem registry_eq (hissues : c.issues d = .ok issues) (loader : Option Loader) :
    registry d (some c) loader = (reports issues).bind fun _ => do
      let empty ← Registry.make none c.defaultMode
      let l ← loader.elim (registry.lift (directories d c)) pure
      let names ← registry.lift (setNames d c l)
      return (← names.foldlM (addSet d) (empty, l)).1 := by
  have hlift : registry.lift (c.issues d) = pure issues := by
    rw [hissues]
    rfl
  unfold registry
  cases loader <;> simp only [pure_bind, hlift, Option.elim] <;> rfl

/-- The directories of the configuration stand in for a source that is not given. -/
def source (d : Disk) (c : Config) : Option Loader → Except Fault Loader
  | some l => .ok l
  | none => directories d c

theorem registry_source {loader : Option Loader} (h : source d c loader = .ok l) :
    registry d (some c) loader = registry d (some c) (some l) := by
  cases loader with
  | some m =>
    cases h
    rfl
  | none =>
    have hlift : registry.lift (directories d c) = pure l := by
      rw [show directories d c = .ok l from h]
      rfl
    unfold registry
    simp only [pure_bind, hlift]

/-- A configuration that cannot be judged ends the work as well. -/
theorem registry_of_unjudged {f : Fault} (h : c.issues d = .error f) (loader : Option Loader) :
    registry d (some c) loader = ⟨.error (.fault f), []⟩ := by
  unfold registry
  simp only [pure_bind, h]
  rfl

/-- An error in the configuration ends the work before there is anything to load from. -/
theorem registry_of_error (hissues : c.issues d = .ok issues) {i : Config.Issue}
    (hi : issues.find? (·.isError) = some i) (loader : Option Loader) :
    registry d (some c) loader = ⟨.error (.definition (.badConfiguration i.text i.path)),
      (issues.takeWhile (!·.isError)).map (.configuration ·.text)⟩ := by
  rw [registry_eq hissues, reports_of_error hi]
  rfl

/-- The mode of a configuration without errors is known. -/
theorem exists_mode (hissues : c.issues d = .ok issues) (hno : ∀ i ∈ issues, i.isError = false) :
    ∃ mode, Registry.make none c.defaultMode = .ok (.empty (DefaultMode.schema mode)) := by
  cases hmode : DefaultMode.ofValue? c.defaultMode with
  | some mode =>
    refine ⟨mode, ?_⟩
    simp only [Registry.make, DefaultMode.parse, hmode]
    rfl
  | none =>
    obtain ⟨modes, hmodes, hissues⟩ := Failure.exists_of_bind_eq_ok hissues
    obtain ⟨more, -, hissues⟩ := Failure.exists_of_bind_eq_ok hissues
    have hmem : Config.Issue.unknownMode c.defaultMode ∈ issues := by
      unfold Config.modeIssues at hmodes
      rw [hmode] at hmodes
      cases hshown : c.defaultMode.unwritable? with
      | some f => simp [hshown] at hmodes
      | none =>
        simp only [Option.isSome_none, Bool.false_eq_true, if_false, hshown, Except.ok.injEq]
          at hmodes
        subst hmodes
        cases hissues
        simp
    cases hno _ hmem

theorem outcome_registry (hissues : c.issues d = .ok issues) (hno : ∀ i ∈ issues, i.isError = false)
    {empty : Registry} (hmode : Registry.make none c.defaultMode = .ok empty) (l : Loader) :
    (registry d (some c) (some l)).outcome =
      ((setNames d c l).mapError .fault).bind fun names => names.foldlM (enlist d l) empty := by
  rw [registry_eq hissues, reports_of_no_error hno, hmode]
  show (registry.lift (setNames d c l) >>= fun names => _).outcome = _
  cases setNames d c l with
  | error f => rfl
  | ok names =>
    refine Eq.trans ?_ (outcome_addSets empty l names)
    exact Logged.outcome_map (·.1) (names.foldlM (addSet d) (empty, l))

/-! The sets that are registered. -/

/-- The names have sets, one after another, and each is told of before the next one is loaded. -/
inductive Enlists (d : Disk) (l : Loader) : Registry → List String → List SchemaSet → Prop
  | nil (r : Registry) : Enlists d l r [] []
  | cons {r : Registry} {name : String} {set : SchemaSet} {names : List String}
      {sets : List SchemaSet} : l.answer d name = .ok (some set) → untold? r set = none →
      Enlists d l (r.registerSet set) names sets → Enlists d l r (name :: names) (set :: sets)

/-- Why a name ends the work. -/
inductive Fails (d : Disk) (l : Loader) (r : Registry) (name : String) : Failure → Prop
  | missing : l.answer d name = .ok none → Fails d l r name (.definition (.setNotFound name))
  | loading {e : Failure} : l.answer d name = .error e → Fails d l r name e
  | telling {set : SchemaSet} {f : Fault} : l.answer d name = .ok (some set) →
      untold? r set = some f → Fails d l r name (.fault f)

variable {r : Registry} {name : String} {sets : List SchemaSet} {set : SchemaSet}

theorem enlist_of_answer (h : l.answer d name = .ok (some set)) : enlist d l r name =
    (untold? r set).elim (.ok (r.registerSet set)) fun f => .error (.fault f) := by
  rw [enlist, demand, h]
  rfl

theorem Fails.enlist {e : Failure} (h : Fails d l r name e) : enlist d l r name = .error e := by
  cases h with
  | missing hanswer | loading hanswer =>
    rw [Assembly.enlist, demand, hanswer]
    rfl
  | telling hanswer htold =>
    rw [enlist_of_answer hanswer, htold]
    rfl

theorem enlist_cases (d : Disk) (l : Loader) (r : Registry) (name : String) :
    (∃ set, l.answer d name = .ok (some set) ∧ untold? r set = none) ∨
      ∃ e, Fails d l r name e := by
  rcases hanswer : l.answer d name with e | _ | set
  · exact .inr ⟨e, .loading hanswer⟩
  · exact .inr ⟨_, .missing hanswer⟩
  · cases htold : untold? r set with
    | none => exact .inl ⟨set, rfl, htold⟩
    | some f => exact .inr ⟨_, .telling hanswer htold⟩

/-- Sources that answer all names the same register the same. -/
theorem foldlM_enlist_congr {m : Loader}
    (h : ∀ name ∈ names, l.answer d name = m.answer d name) (r : Registry) :
    names.foldlM (enlist d l) r = names.foldlM (enlist d m) r := by
  induction names generalizing r with
  | nil => rfl
  | cons name rest ih =>
    obtain ⟨hname, hrest⟩ := List.forall_mem_cons.1 h
    have henlist : enlist d l r name = enlist d m r name := by
      rw [enlist, enlist, demand, demand, hname]
    rw [List.foldlM_cons, List.foldlM_cons, henlist]
    exact congrArg _ (funext (ih hrest))

theorem Enlists.foldlM_append (h : Enlists d l r names sets) (more : List String) :
    (names ++ more).foldlM (enlist d l) r =
      more.foldlM (enlist d l) (r.registerAll (sets.flatMap (·.schemas))) := by
  induction h with
  | nil r => rfl
  | cons hanswer htold _ ih =>
    rw [List.cons_append, List.foldlM_cons, enlist_of_answer hanswer, htold]
    refine Eq.trans ih ?_
    rw [List.flatMap_cons, Registry.registerAll, Registry.registerAll, List.foldl_append]
    rfl

theorem Enlists.outcome (h : Enlists d l r names sets) :
    names.foldlM (enlist d l) r = .ok (r.registerAll (sets.flatMap (·.schemas))) := by
  have happend := h.foldlM_append []
  rwa [List.append_nil] at happend

theorem Fails.outcome {before : List String} {e : Failure} (hbefore : Enlists d l r before sets)
    (h : Fails d l (r.registerAll (sets.flatMap (·.schemas))) name e) (after : List String) :
    (before ++ name :: after).foldlM (Assembly.enlist d l) r = .error e := by
  rw [hbefore.foldlM_append, List.foldlM_cons, h.enlist]
  rfl

/-- The names are enlisted, or a first one fails. -/
theorem enlists_or_fails (d : Disk) (l : Loader) (r : Registry) (names : List String) :
    (∃ sets, Enlists d l r names sets) ∨ ∃ before name after sets e,
      names = before ++ name :: after ∧ Enlists d l r before sets ∧
        Fails d l (r.registerAll (sets.flatMap (·.schemas))) name e := by
  induction names generalizing r with
  | nil => exact .inl ⟨[], .nil r⟩
  | cons name rest ih =>
    rcases enlist_cases d l r name with ⟨set, hanswer, htold⟩ | ⟨e, he⟩
    · rcases ih (r.registerSet set) with
        ⟨sets, hsets⟩ | ⟨before, other, after, sets, e, rfl, hsets, he⟩
      · exact .inl ⟨set :: sets, .cons hanswer htold hsets⟩
      · refine .inr ⟨name :: before, other, after, set :: sets, e, rfl,
          .cons hanswer htold hsets, ?_⟩
        rw [List.flatMap_cons, Registry.registerAll, List.foldl_append]
        exact he
    · exact .inr ⟨[], name, rest, [], e, rfl, .nil r, he⟩

theorem foldlM_enlist_eq_error_iff {e : Failure} : names.foldlM (enlist d l) r = .error e ↔
    ∃ before name after sets, names = before ++ name :: after ∧ Enlists d l r before sets ∧
      Fails d l (r.registerAll (sets.flatMap (·.schemas))) name e := by
  constructor
  · intro h
    rcases enlists_or_fails d l r names with
      ⟨sets, hsets⟩ | ⟨before, name, after, sets, e', rfl, hsets, he⟩
    · cases hsets.outcome.symm.trans h
    · obtain rfl := Except.error.inj ((he.outcome hsets after).symm.trans h)
      exact ⟨before, name, after, sets, rfl, hsets, he⟩
  · rintro ⟨before, name, after, sets, rfl, hsets, he⟩
    exact he.outcome hsets after

/-! Sets that can be told of. -/

/-- All that a registry tells of the set can be written. Names should be texts, and texts can. -/
structure Titled (set : SchemaSet) : Prop where
  name : set.name.unwritable? = none
  schemas : ∀ s ∈ set.schemas, s.name.unwritable? = none

theorem titled_of_texts (hname : ∃ n, set.name = .str n)
    (hschemas : ∀ s ∈ set.schemas, ∃ n, s.name = .str n) : Titled set where
  name := by
    obtain ⟨n, hn⟩ := hname
    rw [hn, Value.unwritable?_str]
  schemas := by
    intro s hs
    obtain ⟨n, hn⟩ := hschemas s hs
    rw [hn, Value.unwritable?_str]

theorem fault?_announcements (r : Registry) (schemas : List Schema)
    (h : ∀ s ∈ schemas, s.name.unwritable? = none) :
    ∀ n ∈ r.announcements schemas, n.fault? = none := by
  induction schemas generalizing r with
  | nil => simp [Registry.announcements]
  | cons s rest ih =>
    obtain ⟨hs, hrest⟩ := List.forall_mem_cons.1 h
    refine List.forall_mem_cons.2 ⟨?_, ih (r.register s) hrest⟩
    unfold Registry.announcement
    split
    · rfl
    · exact hs

theorem untold?_of_titled (h : Titled set) (r : Registry) : untold? r set = none := by
  refine List.findSome?_eq_none_iff.2 (List.forall_mem_append.2 ⟨?_, ?_⟩)
  · exact fault?_announcements r set.schemas h.schemas
  · exact List.forall_mem_singleton.2 h.name

theorem exists_base {path : String} {l : DirectoryLoader}
    (h : DirectoryLoader.make d path [] = .ok l) : ∃ base, l = { base } := by
  obtain ⟨_, -, h⟩ := Failure.exists_of_bind_eq_ok h
  obtain ⟨base, -, h⟩ := Failure.exists_of_bind_eq_ok h
  exact ⟨base, (Except.ok.inj h).symm⟩

end

end Assembly

end PathPolicy
