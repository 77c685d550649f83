import PathPolicy.Proofs.Config.Issues
import PathPolicy.Proofs.Files.Absence
import PathPolicy.Proofs.Loader.Listing

/-! What warnings say. The registry of a configuration is compared with that of what its warnings
leave of it. A directory that is missing gives nothing if the place it resolves to is no directory
either; sets without a directory to load them from are still asked for. -/

namespace PathPolicy

open Files

variable {d : Disk} {c : Config} {issues : List Config.Issue} {path name ending : String}
  {names : List String}

namespace DirectoryLoader

variable [Host] {l m : DirectoryLoader}

/-! Loaders that look where there is no directory. -/

theorem list_of_nowhere (h : d.isDirectoryAt l.base = .ok false) : l.list d = .ok [] := by
  unfold list
  unfold Disk.isDirectoryAt at h
  rcases hbase : d.locate l.base with f | _ | place
  · rw [hbase] at h
    cases h
  · rfl
  · have hdir : d.isDirectory place = false := by
      rw [hbase] at h
      exact Except.ok.inj h
    show (if _ then _ else _) = _
    rw [hdir]
    rfl

theorem contains_file_ne_true (h : d.isDirectoryAt l.base = .ok false)
    (hname : (Path.ofText name).isAbsolute = false) (he : ending ∈ endings) :
    d.contains (l.file name ending) ≠ .ok true := by
  have hletter : 'm' ∈ ending.toList ∧ ending.toList.head? ≠ some '/' := by
    revert ending
    decide
  rw [file, Path.join_of_relative (Path.relative_append hname hletter.2)]
  refine Disk.contains_below_ne_true h (Path.partsOf_ne_nil (c := 'm') ?_ (by decide) (by decide))
  rw [String.toList_append]
  exact List.mem_append_right _ hletter.1

theorem answer_of_nowhere (h : d.isDirectoryAt l.base = .ok false)
    (hname : (Path.ofText name).isAbsolute = false) (htold : Told d l name) (hkept : l.cache = []) :
    l.answer d name = .ok none := by
  rcases absent_or_prefers htold with habsent | ⟨e, he, hexists, -⟩
  · exact (current_of_not_kept (by rw [hkept]; rfl)).absent (habsent _ (by simp [endings]))
      (habsent _ (by simp [endings]))
  · exact (contains_file_ne_true h hname he hexists).elim

/-- The file of an absolute name is the same wherever it is looked for. -/
theorem answer_of_absolute (hname : (Path.ofText name).isAbsolute = true) (hl : l.cache = [])
    (hm : m.cache = []) (hvalidators : l.validators = m.validators) :
    l.answer d name = m.answer d name := by
  refine answer_eq_of_not_kept (by rw [hl]; rfl) (by rw [hm]; rfl) ?_ hvalidators
  funext ending
  rw [file, file, Path.join_of_absolute (Path.absolute_append hname ending),
    Path.join_of_absolute (Path.absolute_append hname ending)]

/-! Loaders of the paths of a configuration. -/

theorem make_cases {b : Bool} (h : Config.found d path = .ok b) :
    ∃ p, d.expandHome (.ofText path) = .ok p ∧ d.isDirectoryAt p = .ok b ∧
      make d path [] = (d.resolve p).map fun base => { base } := by
  obtain ⟨p, hp, h⟩ := Failure.exists_of_bind_eq_ok h
  refine ⟨p, hp, h, ?_⟩
  rw [make, hp]
  show (d.resolve p >>= _) = _
  cases d.resolve p <;> rfl

theorem exists_make (h : Config.found d path = .ok true) : ∃ l, make d path [] = .ok l := by
  obtain ⟨p, -, hdir, hmake⟩ := make_cases h
  rcases hlocate : d.locate p with f | _ | place
  · simp [Disk.isDirectoryAt, hlocate, Except.map] at hdir
  · simp [Disk.isDirectoryAt, hlocate, Except.map] at hdir
  · rw [hmake, Disk.resolve_of_locate hlocate]
    exact ⟨_, rfl⟩

theorem make_eq_error {b : Bool} {f : Fault} (hfound : Config.found d path = .ok b)
    (h : make d path [] = .error f) : f = .nulInPath := by
  obtain ⟨p, -, -, hmake⟩ := make_cases hfound
  rw [hmake, Disk.resolve] at h
  split at h <;> cases h
  rfl

theorem make_of_nul {b : Bool} (hfound : Config.found d path = .ok b)
    (h : (Path.ofText path).hasNul = true) : make d path [] = .error .nulInPath := by
  obtain ⟨p, hp, -, hmake⟩ := make_cases hfound
  rw [hmake, Disk.resolve, if_pos (Disk.nul_of_expandHome hp h)]
  rfl

end DirectoryLoader

namespace Loader

variable [Host] {α : Type} {kept : α → Bool} {items : List α}

theorem firstOf_filter {answer : α → Except Failure (Option SchemaSet)}
    (h : ∀ a ∈ items, kept a = false → answer a = .ok none) :
    firstOf ((items.filter kept).map answer) = firstOf (items.map answer) := by
  induction items with
  | nil => rfl
  | cons a rest ih =>
    obtain ⟨ha, hrest⟩ := List.forall_mem_cons.1 h
    cases hkept : kept a with
    | true =>
      rw [List.filter_cons_of_pos hkept, List.map_cons, List.map_cons]
      rcases answer a with e | _ | s
      · rfl
      · exact ih hrest
      · rfl
    | false =>
      rw [List.filter_cons_of_neg (by simp [hkept]), List.map_cons, ha hkept]
      exact ih hrest

/-- Among answers that are all the same the first is as good as any. -/
theorem firstOf_of_const {answer : α → Except Failure (Option SchemaSet)} {a : α} (ha : a ∈ items)
    (h : ∀ b ∈ items, answer b = answer a) : firstOf (items.map answer) = answer a := by
  rcases firstOf_mem (items.map answer) with hnone | hmem
  · rw [hnone]
    exact (firstOf_eq_none_iff.1 hnone _ (List.mem_map_of_mem ha)).symm
  · obtain ⟨b, hb, hanswer⟩ := List.mem_map.1 hmem
    exact hanswer.symm.trans (h b hb)

theorem firstOf_filter_of_const {answer : α → Except Failure (Option SchemaSet)} {a : α}
    (ha : a ∈ items.filter kept) (h : ∀ b ∈ items, answer b = answer a) :
    firstOf ((items.filter kept).map answer) = firstOf (items.map answer) := by
  rw [firstOf_of_const ha fun b hb => h b (List.mem_of_mem_filter hb),
    firstOf_of_const (List.mem_of_mem_filter ha) h]

theorem listAll_filter (loaderOf : α → Loader)
    (h : ∀ a ∈ items, kept a = false → (loaderOf a).list d = .ok []) :
    listAll d ((items.filter kept).map loaderOf) = listAll d (items.map loaderOf) := by
  induction items with
  | nil => rfl
  | cons a rest ih =>
    obtain ⟨ha, hrest⟩ := List.forall_mem_cons.1 h
    cases hkept : kept a with
    | true =>
      rw [List.filter_cons_of_pos hkept, List.map_cons, List.map_cons, listAll, listAll, ih hrest]
    | false =>
      rw [List.filter_cons_of_neg (by simp [hkept]), ih hrest, List.map_cons, listAll, ha hkept]
      cases listAll d (rest.map loaderOf) <;> rfl

end Loader

namespace Assembly

open DirectoryLoader (filed reader)

section

variable [Host]

/-- A name that would be loaded. -/
def Demanded (d : Disk) (c : Config) (name : String) : Prop :=
  ∃ l names, directories d c = .ok l ∧ setNames d c l = .ok names ∧ name ∈ names

/-- Looks where there is no directory, and can tell so of all that it would be asked for there. -/
structure Idle (d : Disk) (c : Config) (l : DirectoryLoader) : Prop where
  nowhere : d.isDirectoryAt l.base = .ok false
  told : ∀ name, Demanded d c name → (Path.ofText name).isAbsolute = false → l.Told d name

/-- Both fail, or both give a registry with the same schemas and the same one for all other
paths. -/
def Agree : Except Failure Registry → Except Failure Registry → Prop
  | .ok r, .ok s => r.schemas = s.schemas ∧ r.fallback = s.fallback
  | .error _, .error _ => True
  | _, _ => False

/-- What the issues call useless makes no difference. -/
def Truthful (d : Disk) (c : Config) (issues : List Config.Issue) : Prop :=
  Agree (registry d (some c) none).outcome (registry d (some (c.heeding issues)) none).outcome

theorem Agree.of_eq {x y : Except Failure Registry} (h : x = y) : Agree x y := by
  subst h
  cases x with
  | ok r => exact ⟨rfl, rfl⟩
  | error e => trivial

/-! The source of a configuration. -/

variable {loaderOf : String → DirectoryLoader}

/-- The directories of some paths, in order. -/
def sourceOf (loaderOf : String → DirectoryLoader) (paths : List String) : Loader :=
  .composite (paths.map fun p => .directory (loaderOf p))

theorem source_eq (h : ∀ p ∈ c.schemaPaths, DirectoryLoader.make d p [] = .ok (loaderOf p)) :
    source d c none = .ok (sourceOf loaderOf c.schemaPaths) := by
  have hread : List.Forall₂
      (fun p l => (DirectoryLoader.make d p [] >>= fun l => pure (Loader.directory l)) = .ok l)
      c.schemaPaths (c.schemaPaths.map fun p => .directory (loaderOf p)) := by
    rw [List.forall₂_map_right_iff, List.forall₂_same]
    intro p hp
    rw [h p hp]
    rfl
  rw [source, directories, Failure.mapM_eq_ok_of_forall₂ hread]
  rfl

theorem directories_of_nul (hissues : c.issues d = .ok issues) (hpath : path ∈ c.schemaPaths)
    (hnul : (Path.ofText path).hasNul = true) : directories d c = .error .nulInPath := by
  obtain ⟨-, hfound, -⟩ := Config.issues_eq_ok_iff.1 hissues
  cases h : directories d c with
  | ok l =>
    obtain ⟨loaders, hloaders, -⟩ := Failure.exists_of_bind_eq_ok h
    obtain ⟨l, hl⟩ := Failure.exists_of_forall₂ (Failure.forall₂_of_mapM_eq_ok hloaders) path hpath
    rw [DirectoryLoader.make_of_nul (hfound path hpath) hnul] at hl
    cases hl
  | error f =>
    rcases Failure.error_or_of_bind_eq_error h with hread | ⟨_, -, h⟩
    · obtain ⟨p, hp, hmake⟩ := Failure.exists_of_mapM_eq_error hread
      rcases Failure.error_or_of_bind_eq_error hmake with hmake | ⟨_, -, hmake⟩
      · rw [DirectoryLoader.make_eq_error (hfound p hp) hmake]
      · cases hmake
    · cases h

/-- A loader for each path, which is idle if the path is missing. -/
theorem exists_loaderOf (hissues : c.issues d = .ok issues)
    (hidle : ∀ i p, .missingDirectory i p ∈ issues →
      ∃ l, DirectoryLoader.make d p [] = .ok l ∧ Idle d c l) :
    ∃ loaderOf : String → DirectoryLoader,
      (∀ p ∈ c.schemaPaths, DirectoryLoader.make d p [] = .ok (loaderOf p)) ∧
        ∀ p ∈ c.schemaPaths, Config.isFound d p = false → Idle d c (loaderOf p) := by
  have hmake : ∀ p ∈ c.schemaPaths, ∃ l, DirectoryLoader.make d p [] = .ok l ∧
      (Config.isFound d p = false → Idle d c l) := by
    intro p hp
    cases hp' : Config.isFound d p with
    | true =>
      obtain ⟨l, hl⟩ := DirectoryLoader.exists_make (Config.isFound_iff.1 hp')
      exact ⟨l, hl, nofun⟩
    | false =>
      obtain ⟨i, hi⟩ := Config.exists_mem_zipIdx hp
      obtain ⟨l, hl, h⟩ := hidle i p ((Config.missing_mem_iff hissues).2 ⟨hi, hp'⟩)
      exact ⟨l, hl, fun _ => h⟩
  have : Nonempty DirectoryLoader := ⟨{ base := ⟨"", []⟩ }⟩
  choose! loaderOf hloader hidle using hmake
  exact ⟨loaderOf, hloader, hidle⟩

theorem setNames_heeding (hsets : .setsWithoutPaths ∉ issues)
    (hidle : ∀ p ∈ c.schemaPaths, Config.isFound d p = false → Idle d c (loaderOf p)) :
    setNames d (c.heeding issues) (sourceOf loaderOf (c.schemaPaths.filter (Config.isFound d))) =
      setNames d c (sourceOf loaderOf c.schemaPaths) := by
  have hlist := Loader.listAll_filter (fun p => .directory (loaderOf p))
    fun p hp hno => DirectoryLoader.list_of_nowhere (hidle p hp hno).nowhere
  rw [setNames, setNames, Config.heeding_schemaSets hsets, sourceOf, sourceOf, Loader.list,
    Loader.list, hlist]

/-- A directory that is missing answers no relative name; an absolute one is answered the same by
every directory that is left. -/
theorem answer_heeding (hmake : ∀ p ∈ c.schemaPaths, DirectoryLoader.make d p [] = .ok (loaderOf p))
    (hidle : ∀ p ∈ c.schemaPaths, Config.isFound d p = false → Idle d c (loaderOf p))
    (hname : Demanded d c name) (hleft : (Path.ofText name).isAbsolute = true →
      c.schemaPaths.filter (Config.isFound d) ≠ []) :
    (sourceOf loaderOf (c.schemaPaths.filter (Config.isFound d))).answer d name =
      (sourceOf loaderOf c.schemaPaths).answer d name := by
  rw [sourceOf, sourceOf, Loader.answer_composite, Loader.answer_composite, List.map_map,
    List.map_map]
  cases habsolute : (Path.ofText name).isAbsolute with
  | false =>
    refine Loader.firstOf_filter fun p hp hp' => ?_
    obtain ⟨base, hbase⟩ := exists_base (hmake p hp)
    rw [Function.comp_apply, Loader.answer_directory]
    exact DirectoryLoader.answer_of_nowhere (hidle p hp hp').nowhere habsolute
      ((hidle p hp hp').told name hname habsolute) (by rw [hbase])
  | true =>
    -- the path of the loader plays no part, so the first that is left stands for all
    obtain ⟨p, hp⟩ := List.exists_mem_of_ne_nil _ (hleft habsolute)
    refine Loader.firstOf_filter_of_const hp fun q hq => ?_
    obtain ⟨_, hbase⟩ := exists_base (hmake p (List.mem_of_mem_filter hp))
    obtain ⟨_, hbase'⟩ := exists_base (hmake q hq)
    rw [Function.comp_apply, Function.comp_apply, Loader.answer_directory, Loader.answer_directory,
      hbase, hbase']
    exact DirectoryLoader.answer_of_absolute habsolute rfl rfl rfl

/-! The two registries. -/

theorem outcome_heeding (hissues : c.issues d = .ok issues) (hno : ∀ i ∈ issues, i.isError = false)
    (hsets : .setsWithoutPaths ∉ issues)
    (hidle : ∀ i p, .missingDirectory i p ∈ issues →
      ∃ l, DirectoryLoader.make d p [] = .ok l ∧ Idle d c l)
    (hleft : ∀ name, Demanded d c name → (Path.ofText name).isAbsolute = true →
      (c.heeding issues).schemaPaths ≠ []) :
    (registry d (some c) none).outcome = (registry d (some (c.heeding issues)) none).outcome := by
  obtain ⟨loaderOf, hmake, hidle⟩ := exists_loaderOf hissues hidle
  have hpaths := Config.heeding_schemaPaths hissues
  have hall : source d c none = .ok (sourceOf loaderOf c.schemaPaths) := source_eq hmake
  have hkept : source d (c.heeding issues) none =
      .ok (sourceOf loaderOf (c.schemaPaths.filter (Config.isFound d))) := by
    rw [← hpaths]
    exact source_eq fun p hp => hmake p (List.mem_of_mem_filter (hpaths ▸ hp))
  obtain ⟨mode, hmode⟩ := exists_mode hissues hno
  obtain ⟨left, hissues', hno'⟩ := Config.issues_heeding hissues hno
  rw [registry_source hall, registry_source hkept, outcome_registry hissues hno hmode,
    outcome_registry hissues' hno' hmode, setNames_heeding hsets hidle]
  cases hnames : setNames d c (sourceOf loaderOf c.schemaPaths) with
  | error f => rfl
  | ok names =>
    refine foldlM_enlist_congr (fun name hname => ?_) _
    have hdemanded : Demanded d c name := ⟨_, names, hall, hnames, hname⟩
    exact (answer_heeding hmake hidle hdemanded (hpaths ▸ hleft name hdemanded)).symm

theorem outcome_of_no_source {f : Fault} (hissues : c.issues d = .ok issues)
    (hno : ∀ i ∈ issues, i.isError = false) (h : directories d c = .error f) :
    (registry d (some c) none).outcome = .error (.fault f) := by
  obtain ⟨mode, hmode⟩ := exists_mode hissues hno
  rw [registry_eq hissues, reports_of_no_error hno, hmode, Option.elim, h]
  rfl

/-- Sets without a directory are asked for all the same, unless they are left out. -/
theorem outcome_of_setsWithoutPaths (hissues : c.issues d = .ok issues)
    (hno : ∀ i ∈ issues, i.isError = false) (hsets : .setsWithoutPaths ∈ issues) :
    ∃ name rest mode, c.schemaSets = name :: rest ∧
      (registry d (some c) none).outcome = .error (.definition (.setNotFound name)) ∧
      (registry d (some (c.heeding issues)) none).outcome = .ok (.empty (DefaultMode.schema mode)) := by
  obtain ⟨hne, hpaths⟩ := (Config.setsWithoutPaths_mem_iff hissues).1 hsets
  obtain ⟨name, rest, hnames⟩ := List.exists_cons_of_ne_nil hne
  obtain ⟨mode, hmode⟩ := exists_mode hissues hno
  obtain ⟨left, hissues', hno'⟩ := Config.issues_heeding hissues hno
  have hsource {b : Config} (hb : b.schemaPaths = []) : source d b none = .ok (.composite []) := by
    rw [source, directories, hb]
    rfl
  have hpaths' : (c.heeding issues).schemaPaths = [] := by
    rw [Config.heeding_schemaPaths hissues, hpaths]
    rfl
  refine ⟨name, rest, mode, hnames, ?_, ?_⟩
  · have hsetNames : setNames d c (.composite []) = .ok (name :: rest) := by
      rw [setNames, hnames]
      rfl
    rw [registry_source (hsource hpaths), outcome_registry hissues hno hmode, hsetNames]
    have hanswer : (Loader.composite []).answer d name = .ok none := Loader.answer_composite []
    exact Fails.outcome (.nil _) (.missing hanswer) rest
  · have hsetNames : setNames d (c.heeding issues) (.composite []) = .ok [] := by
      rw [setNames, Config.heeding_schemaSets_of_mem hsets, Loader.list, Loader.listAll]
      simp only [sortedNames, Except.map, List.mergeSort_nil]
      rfl
    rw [registry_source (hsource hpaths'), outcome_registry hissues' hno' hmode, hsetNames]
    rfl

/-- A warning is right about a directory that is missing from its own place and the place that it
resolves to, and about a plain one anyway. It is wrong about sets that are named without any
directory: they are asked for, and the first of them ends the work. -/
theorem warnings_truthful (d : Disk) (c : Config) (issues : List Config.Issue)
    (hissues : c.issues d = .ok issues) (hno : ∀ i ∈ issues, i.isError = false) :
    (.setsWithoutPaths ∉ issues →
      (∀ i p, .missingDirectory i p ∈ issues →
        ∃ l, DirectoryLoader.make d p [] = .ok l ∧ Idle d c l) →
      (∀ name, Demanded d c name → (Path.ofText name).isAbsolute = true →
        (c.heeding issues).schemaPaths ≠ []) →
      Truthful d c issues ∧
        (registry d (some c) none).outcome = (registry d (some (c.heeding issues)) none).outcome) ∧
    (.setsWithoutPaths ∈ issues → ¬Truthful d c issues ∧ ∃ name rest mode,
      c.schemaSets = name :: rest ∧
      (registry d (some c) none).outcome = .error (.definition (.setNotFound name)) ∧
      (registry d (some (c.heeding issues)) none).outcome = .ok (.empty (DefaultMode.schema mode))) ∧
    (∀ i p q, .missingDirectory i p ∈ issues → d.expandHome (.ofText p) = .ok q → d.Plain q →
      ∃ l, DirectoryLoader.make d p [] = .ok l ∧ d.isDirectoryAt l.base = .ok false) ∧
    ∀ p ∈ c.schemaPaths, (Path.ofText p).hasNul = true →
      (registry d (some c) none).outcome = .error (.fault .nulInPath) := by
  refine ⟨fun hsets hidle hleft => ?_, fun hsets => ?_, fun i p q hmissing hq hplain => ?_,
    fun p hp hnul => ?_⟩
  · have hsame := outcome_heeding hissues hno hsets hidle hleft
    exact ⟨Agree.of_eq hsame, hsame⟩
  · obtain ⟨name, rest, mode, hnames, houtcome, hheeding⟩ :=
      outcome_of_setsWithoutPaths hissues hno hsets
    refine ⟨fun htruthful => ?_, name, rest, mode, hnames, houtcome, hheeding⟩
    rw [Truthful, houtcome, hheeding] at htruthful
    exact htruthful
  · obtain ⟨hp, hno⟩ := (Config.missing_mem_iff hissues).1 hmissing
    have hfound := (Config.issues_eq_ok_iff.1 hissues).2.1 p (List.fst_mem_of_mem_zipIdx hp)
    obtain ⟨q', hq', hdir, hmake⟩ := DirectoryLoader.make_cases hfound
    obtain rfl : q = q' := Except.ok.inj (hq.symm.trans hq')
    rw [hno] at hdir
    obtain ⟨base, hbase, hnowhere⟩ := Disk.isDirectoryAt_resolve hplain hdir
    refine ⟨{ base }, ?_, hnowhere⟩
    rw [hmake, hbase]
    rfl
  · exact outcome_of_no_source hissues hno (directories_of_nul hissues hp hnul)

end

/-- A directory that is missing, before one that is there. -/
def halfMissing : Config := { schemaPaths := ["/gone", "/s"], schemaSets := ["a"] }

theorem warnings_truthful_halfMissing :
    Truthful (filed "a.yml") halfMissing [.missingDirectory 0 "/gone"] := by
  have hissues : Config.issues (filed "a.yml") halfMissing =
      .ok [.missingDirectory 0 "/gone"] := by cbv
  have h := warnings_truthful _ _ _ hissues (by simp [Config.Issue.isError])
  refine (h.1 (by simp) ?_ ?_).1
  · intro i p hp
    obtain ⟨rfl, rfl⟩ := Config.Issue.missingDirectory.inj (List.mem_singleton.1 hp)
    refine ⟨{ base := ⟨"/", ["gone"]⟩ }, by cbv, ⟨rfl, ?_⟩⟩
    rintro name ⟨l, names, hl, hnames, hname⟩ - f
    obtain rfl : ["a"] = names := Except.ok.inj hnames
    obtain rfl := List.mem_singleton.1 hname
    rintro (hf | ⟨-, hf⟩) <;> cases hf
  · rintro _ - -
    exact List.cons_ne_nil "/s" []

/-- Sets that are named without a directory. -/
theorem not_truthful_setsWithoutPaths : ¬∀ (d : Disk) (c : Config) (issues : List Config.Issue),
    c.issues d = .ok issues → (∀ i ∈ issues, i.isError = false) → Truthful d c issues := by
  intro htruthful
  have hissues : Config.issues {} { schemaSets := ["a"] } = .ok [.setsWithoutPaths] := by cbv
  have hno : ∀ i ∈ [Config.Issue.setsWithoutPaths], i.isError = false := by decide
  obtain ⟨_, _, _, -, houtcome, hheeding⟩ := outcome_of_setsWithoutPaths hissues hno (by simp)
  have h := htruthful {} _ _ hissues hno
  rw [Truthful, houtcome, hheeding] at h
  exact h

/-- A path through a directory that is missing, which is left out when the path is resolved. -/
def roundabout : Config := { schemaPaths := ["/gone/../s"], schemaSets := ["a"] }

theorem not_truthful_roundabout :
    Config.issues (filed "a.yml") roundabout = .ok [.missingDirectory 0 "/gone/../s"] ∧
      ¬Truthful (filed "a.yml") roundabout [.missingDirectory 0 "/gone/../s"] := by
  have hissues : Config.issues (filed "a.yml") roundabout =
      .ok [.missingDirectory 0 "/gone/../s"] := by cbv
  have hno : ∀ i ∈ [Config.Issue.missingDirectory 0 "/gone/../s"], i.isError = false := by decide
  obtain ⟨mode, hmode⟩ := exists_mode hissues hno
  obtain ⟨left, hissues', hno'⟩ := Config.issues_heeding hissues hno
  have hall : source (filed "a.yml") roundabout none = .ok (.composite [.directory reader]) := by cbv
  have hkept : source (filed "a.yml") (roundabout.heeding [.missingDirectory 0 "/gone/../s"]) none =
      .ok (.composite []) := by cbv
  have hparse : reader.parse "a" (reader.file "a" ".yml") [] = .ok { name := .str "a" } := by cbv
  have hreader : reader.answer (filed "a.yml") "a" = .ok (some { name := .str "a" }) :=
    (DirectoryLoader.current_of_not_kept rfl).parsed _ _ _ (.first rfl) rfl hparse
      (Value.unwritable?_str "a")
  have hanswer : (Loader.composite [.directory reader]).answer (filed "a.yml") "a" =
      .ok (some { name := .str "a" }) := by
    rw [Loader.answer_composite, List.map_singleton, Loader.answer_directory, hreader]
    rfl
  have htitled : Titled { name := .str "a" } := titled_of_texts ⟨"a", rfl⟩ (by simp)
  have hgiven : ["a"].foldlM (enlist (filed "a.yml") (.composite [.directory reader]))
      (.empty mode.schema) = .ok _ :=
    Enlists.outcome (.cons hanswer (untold?_of_titled htitled _) (.nil _))
  have hmissing : ["a"].foldlM (enlist (filed "a.yml") (.composite [])) (.empty mode.schema) =
      .error (.definition (.setNotFound "a")) :=
    Fails.outcome (.nil _) (.missing (Loader.answer_composite [])) []
  refine ⟨hissues, fun htruthful => ?_⟩
  rw [Truthful, registry_source hall, registry_source hkept, outcome_registry hissues hno hmode,
    outcome_registry hissues' hno' hmode, show setNames _ roundabout _ = .ok ["a"] from rfl,
    show setNames _ (roundabout.heeding _) _ = .ok ["a"] from rfl] at htruthful
  simp only [Except.mapError, Except.bind, hgiven, hmissing] at htruthful
  exact htruthful

end Assembly

end PathPolicy
