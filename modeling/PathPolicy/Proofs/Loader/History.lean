import PathPolicy.Host.Standard
import PathPolicy.Loader
import PathPolicy.Proofs.Files.Lookup

/-! What a loader of files answers after any history. The first set that was read for a name since
the last reload is the answer from then on; any other load is answered from the files as they
are now. -/

namespace PathPolicy.DirectoryLoader

open Files

section

variable [Host] {d : Disk} {l : DirectoryLoader} {name : String}

/-! One load. -/

/-- The file of a name stands in the directory itself. -/
theorem file_eq_child {ending : String} (hname : '/' ∉ name.toList) (hending : ending ∈ endings) :
    l.file name ending = l.base.child (name ++ ending) := by
  have hseparator : '/' ∉ ending.toList := by
    revert ending
    decide
  have hlength : 2 ≤ ending.toList.length := by
    revert ending
    decide
  refine Path.join_name ⟨?_, fun h => ?_, fun h => ?_⟩ l.base
  · rw [String.toList_append, List.mem_append, not_or]
    exact ⟨hname, hseparator⟩
  all_goals
    have hshort : (name ++ ending).toList.length ≤ 1 := by
      rw [h]
      decide
    rw [String.toList_append, List.length_append] at hshort
    omega

/-- What a load answers, without the loader after it. -/
def answer (d : Disk) (l : DirectoryLoader) (name : String) : Except Failure (Option SchemaSet) :=
  (l.load d name).outcome.map (·.1)

/-- The set that a file with some content holds. -/
def parse (l : DirectoryLoader) (name : String) (p : Path) (bytes : List UInt8) :
    Except Failure SchemaSet :=
  match Host.readDocument bytes with
  | .ok v => SchemaSet.ofValue v name l.validators
  | .error (.malformed reason) => .error (.definition (.unreadableSet p.text reason))
  | .error (.fault f) => .error (.fault f)

/-- The file that is read for a name: the second one only if the first does not exist. -/
inductive Prefers (d : Disk) (l : DirectoryLoader) (name : String) : Path → Prop
  | first : d.contains (l.file name ".yml") = .ok true → Prefers d l name (l.file name ".yml")
  | second : d.contains (l.file name ".yml") = .ok false →
    d.contains (l.file name ".yaml") = .ok true → Prefers d l name (l.file name ".yaml")

/-- It cannot be told which of the files exist, since a path is too long. -/
def Untellable (d : Disk) (l : DirectoryLoader) (name : String) (f : Fault) : Prop :=
  d.contains (l.file name ".yml") = .error f ∨
    d.contains (l.file name ".yml") = .ok false ∧ d.contains (l.file name ".yaml") = .error f

/-- The answer is about the files as they are now. A set whose name has no text is not given. -/
structure Current (d : Disk) (l : DirectoryLoader) (name : String)
    (answer : Except Failure (Option SchemaSet)) : Prop where
  absent : d.contains (l.file name ".yml") = .ok false →
    d.contains (l.file name ".yaml") = .ok false → answer = .ok none
  untellable : ∀ f, Untellable d l name f → answer = .error (.fault f)
  unreadable : ∀ p f, Prefers d l name p → d.read p = .error f → answer = .error (.fault f)
  malformed : ∀ p bytes e, Prefers d l name p → d.read p = .ok bytes →
    l.parse name p bytes = .error e → answer = .error e
  parsed : ∀ p bytes s, Prefers d l name p → d.read p = .ok bytes →
    l.parse name p bytes = .ok s → s.name.unwritable? = none → answer = .ok (some s)
  unnamed : ∀ p bytes s f, Prefers d l name p → d.read p = .ok bytes →
    l.parse name p bytes = .ok s → s.name.unwritable? = some f → answer = .error (.fault f)

theorem file?_of_absent (h : d.contains (l.file name ".yml") = .ok false)
    (h' : d.contains (l.file name ".yaml") = .ok false) : l.file? d name = .ok none := by
  simp only [file?, endings, List.map_cons, List.map_nil, existing?, h, h']
  rfl

theorem file?_of_untellable {f : Fault} (h : Untellable d l name f) :
    l.file? d name = .error f := by
  rcases h with h | ⟨h, h'⟩
  · simp only [file?, endings, List.map_cons, existing?, h]
    rfl
  · simp only [file?, endings, List.map_cons, existing?, h, h']
    rfl

theorem file?_of_prefers {p : Path} (h : Prefers d l name p) : l.file? d name = .ok (some p) := by
  cases h with
  | first h =>
    simp only [file?, endings, List.map_cons, existing?, h]
    rfl
  | second h h' =>
    simp only [file?, endings, List.map_cons, existing?, h, h']
    rfl

theorem readSet_of_unreadable {p : Path} {f : Fault} (h : d.read p = .error f) :
    readSet d l name p = .error (.fault f) := by
  simp only [readSet, readFile, h]
  rfl

theorem readSet_of_read {p : Path} {bytes : List UInt8} (h : d.read p = .ok bytes) :
    readSet d l name p = l.parse name p bytes := by
  have hlift : (liftM (d.read p) : Except Failure (List UInt8)) = .ok bytes := by
    rw [h]
    rfl
  unfold readSet readFile parse
  rw [hlift]
  simp only [bind, Except.bind]
  cases Host.readDocument bytes with
  | ok v => rfl
  | error e => cases e <;> rfl

theorem answer_of_kept {s : SchemaSet} (h : l.cache.lookup name = some s) :
    l.answer d name = .ok (some s) := by
  simp only [answer, load, h]
  rfl

/-- A loader that keeps nothing for the name answers it from the files. -/
theorem current_of_not_kept (h : l.cache.lookup name = none) :
    Current d l name (l.answer d name) where
  absent := by
    intro h₁ h₂
    simp only [answer, load, h, file?_of_absent h₁ h₂]
    rfl
  untellable := by
    intro f hf
    simp only [answer, load, h, file?_of_untellable hf]
    rfl
  unreadable := by
    intro p f hp hf
    simp only [answer, load, h, file?_of_prefers hp, readSet_of_unreadable hf]
    rfl
  malformed := by
    intro p bytes e hp hread he
    simp only [answer, load, h, file?_of_prefers hp, readSet_of_read hread, he]
    rfl
  parsed := by
    intro p bytes s hp hread hs hname
    simp only [answer, load, h, file?_of_prefers hp, readSet_of_read hread, hs, hname]
    rfl
  unnamed := by
    intro p bytes s f hp hread hs hname
    simp only [answer, load, h, file?_of_prefers hp, readSet_of_read hread, hs, hname]
    rfl

theorem file_congr {m : DirectoryLoader} (h : l.base = m.base) : l.file name = m.file name := by
  funext ending
  rw [file, file, h]

/-- What a loader keeps for other names plays no part, and neither does where it looks for them. -/
theorem answer_eq_of_not_kept {m : DirectoryLoader} (hl : l.cache.lookup name = none)
    (hm : m.cache.lookup name = none) (hfile : l.file name = m.file name)
    (hvalidators : l.validators = m.validators) : l.answer d name = m.answer d name := by
  have hfile? : l.file? d name = m.file? d name := by rw [file?, file?, hfile]
  have hread : readSet d l name = readSet d m name := by
    funext p
    rw [readSet, readSet, hvalidators]
  simp only [answer, load, hl, hm, hfile?, hread]
  cases m.file? d name with
  | error f => rfl
  | ok p? =>
    cases p? with
    | none => rfl
    | some p =>
      simp only
      cases readSet d m name p with
      | error e => rfl
      | ok s =>
        simp only
        cases s.name.unwritable? <;> rfl

/-- The set in an answer. -/
def given? (answer : Except Failure (Option SchemaSet)) : Option SchemaSet := answer.toOption.join

/-- What a load that succeeds leaves in the cache is the set that it gives; any other load leaves
the loader as it was. -/
theorem load_cases (d : Disk) (l : DirectoryLoader) (name : String) :
    (∃ s, l.cache.lookup name = none ∧
      (l.load d name).outcome = .ok (some s, { l with cache := (name, s) :: l.cache })) ∨
    (∃ found, l.cache.lookup name = found ∧ (l.load d name).outcome = .ok (found, l)) ∨
    ∃ e, l.cache.lookup name = none ∧ (l.load d name).outcome = .error e := by
  unfold load
  split
  · next s hs => exact .inr (.inl ⟨_, hs, rfl⟩)
  · next hnone =>
    split
    · exact .inr (.inr ⟨_, hnone, rfl⟩)
    · exact .inr (.inl ⟨_, hnone, rfl⟩)
    · split
      · exact .inr (.inr ⟨_, hnone, rfl⟩)
      · split
        · exact .inr (.inr ⟨_, hnone, rfl⟩)
        · exact .inl ⟨_, hnone, rfl⟩

/-! Histories. -/

/-- What happens to the files, and what is asked of a loader. -/
inductive Event where
  | write (place : List String) (bytes : List UInt8)
  | delete (place : List String)
  | load (name : String)
  | list
  | reload
  deriving DecidableEq

inductive Answer where
  | done
  | set (found : Except Failure (Option SchemaSet))
  | names (names : Except Fault (List String))

/-- The files that there are, and a loader. -/
structure Scene where
  disk : Disk
  loader : DirectoryLoader

namespace Scene

/-- The loader after a load. One that fails leaves no other loader. -/
def loaded (s : Scene) (name : String) : DirectoryLoader :=
  ((s.loader.load s.disk name).outcome.toOption.map (·.2)).getD s.loader

def step (s : Scene) : Event → Scene × Answer
  | .write place bytes => ({ s with disk := s.disk.put place (.file bytes) }, .done)
  | .delete place => ({ s with disk := s.disk.remove place }, .done)
  | .load name => ({ s with loader := s.loaded name }, .set (s.loader.answer s.disk name))
  | .list => (s, .names (s.loader.list s.disk))
  | .reload => ({ s with loader := s.loader.reload }, .done)

def after (s : Scene) (events : List Event) : Scene := events.foldl (fun s e => (s.step e).1) s

/-- The events with their answers, in order. -/
def record (s : Scene) : List Event → List (Event × Answer)
  | [] => []
  | e :: rest => (e, (s.step e).2) :: (s.step e).1.record rest

variable {s t : Scene} {other : String}

theorem after_concat (s : Scene) (events : List Event) (e : Event) :
    s.after (events ++ [e]) = ((s.after events).step e).1 := by
  simp [after]

theorem record_concat (s : Scene) (events : List Event) (e : Event) :
    s.record (events ++ [e]) = s.record events ++ [(e, ((s.after events).step e).2)] := by
  induction events generalizing s with
  | nil => rfl
  | cons f rest ih =>
    rw [List.cons_append, record, ih, record]
    rfl

/-- A load reads at most one set, and keeps it unless there is one of that name. -/
theorem loaded_eq (s : Scene) (name : String) :
    (s.loaded name).base = s.loader.base ∧ (s.loaded name).validators = s.loader.validators ∧
      ∀ n, (s.loaded name).cache.lookup n = (s.loader.cache.lookup n).or
        (if name = n then given? (s.loader.answer s.disk name) else none) := by
  unfold loaded answer given?
  rcases load_cases s.disk s.loader name with ⟨set, hnone, h⟩ | ⟨found, hfound, h⟩ | ⟨e, hnone, h⟩
  · rw [h]
    refine ⟨rfl, rfl, fun n => ?_⟩
    show List.lookup n ((name, set) :: s.loader.cache) = _
    by_cases hn : name = n
    · subst hn
      simp [hnone, Except.map, Except.toOption]
    · have hkey : (n == name) = false := beq_eq_false_iff_ne.2 (Ne.symm hn)
      simp [List.lookup, hkey, hn]
  · rw [h]
    refine ⟨rfl, rfl, fun n => ?_⟩
    show s.loader.cache.lookup n = _
    by_cases hn : name = n
    · subst hn
      cases found <;> simp [hfound, Except.map, Except.toOption]
    · simp [hn]
  · rw [h]
    refine ⟨rfl, rfl, fun n => ?_⟩
    show s.loader.cache.lookup n = _
    simp [Except.map, Except.toOption]

/-- What an event leaves in the cache for a name. -/
def kept? (name : String) (before : Option SchemaSet) : Event × Answer → Option SchemaSet
  | (.reload, _) => none
  | (.load n, .set found) => before.or (if n = name then given? found else none)
  | _ => before

theorem step_loader (s : Scene) (e : Event) :
    (s.step e).1.loader.base = s.loader.base ∧
      (s.step e).1.loader.validators = s.loader.validators ∧
      ∀ n, (s.step e).1.loader.cache.lookup n =
        kept? n (s.loader.cache.lookup n) (e, (s.step e).2) := by
  cases e with
  | load name => exact s.loaded_eq name
  | reload => exact ⟨rfl, rfl, fun _ => rfl⟩
  | _ => exact ⟨rfl, rfl, fun _ => rfl⟩

theorem after_loader (s : Scene) (events : List Event) :
    (s.after events).loader.base = s.loader.base ∧
      (s.after events).loader.validators = s.loader.validators := by
  induction events using List.reverseRecOn with
  | nil => exact ⟨rfl, rfl⟩
  | append_singleton events e ih =>
    rw [after_concat]
    obtain ⟨hbase, hvalidators, -⟩ := (s.after events).step_loader e
    exact ⟨hbase.trans ih.1, hvalidators.trans ih.2⟩

/-! The first set that was read. -/

def isReload (x : Event × Answer) : Bool := x.1 = .reload

/-- The part of a record after the last reload. -/
def sinceReload (past : List (Event × Answer)) : List (Event × Answer) :=
  (past.reverse.takeWhile (!isReload ·)).reverse

/-- The set that a load of the name gave. -/
def readBy? (name : String) : Event × Answer → Option SchemaSet
  | (.load n, .set found) => if n = name then given? found else none
  | _ => none

/-- The set of the first load of the name since the last reload that gave one. -/
def firstRead (name : String) (past : List (Event × Answer)) : Option SchemaSet :=
  (sinceReload past).findSome? (readBy? name)

theorem firstRead_concat (name : String) (past : List (Event × Answer)) (x : Event × Answer) :
    firstRead name (past ++ [x]) =
      if isReload x then none else (firstRead name past).or (readBy? name x) := by
  unfold firstRead sinceReload
  rw [List.reverse_concat, List.takeWhile_cons]
  cases hx : isReload x with
  | true => rfl
  | false => simp [List.findSome?_append]

theorem kept?_eq (name : String) (before : Option SchemaSet) (x : Event × Answer) :
    kept? name before x = if isReload x then none else before.or (readBy? name x) := by
  obtain ⟨e, a⟩ := x
  cases e <;> cases a <;> simp [kept?, isReload, readBy?]

/-- The cache of a loader that began with none holds the first sets that were read. -/
theorem lookup_after (hs : s.loader.cache = []) (events : List Event) (name : String) :
    (s.after events).loader.cache.lookup name = firstRead name (s.record events) := by
  induction events using List.reverseRecOn with
  | nil =>
    rw [after, List.foldl_nil, hs]
    rfl
  | append_singleton events e ih =>
    rw [after_concat, record_concat, firstRead_concat, ← kept?_eq, ← ih]
    exact ((s.after events).step_loader e).2.2 name

/-! What has no effect. -/

/-- An event that reads no set: a listing, or a load that fails or finds nothing. -/
def Idle (s : Scene) : Event → Prop
  | .list => True
  | .load name => given? (s.loader.answer s.disk name) = none
  | _ => False

theorem step_of_idle {e : Event} (h : s.Idle e) : (s.step e).1 = s := by
  cases e with
  | list => rfl
  | load name =>
    have hloaded : s.loaded name = s.loader := by
      change given? (s.loader.answer s.disk name) = none at h
      unfold answer given? at h
      unfold loaded
      rcases load_cases s.disk s.loader name with ⟨set, -, hl⟩ | ⟨found, -, hl⟩ | ⟨e, -, hl⟩
      · rw [hl] at h
        cases h
      · rw [hl]
        rfl
      · rw [hl]
        rfl
    rw [step, hloaded]
  | _ => exact h.elim

/-- Two scenes that differ in nothing but what is kept for one name. -/
structure SameBut (other : String) (s t : Scene) : Prop where
  disk : s.disk = t.disk
  base : s.loader.base = t.loader.base
  validators : s.loader.validators = t.loader.validators
  cache : ∀ name, name ≠ other → s.loader.cache.lookup name = t.loader.cache.lookup name

theorem SameBut.answer (h : SameBut other s t) {name : String} (hn : name ≠ other) :
    s.loader.answer s.disk name = t.loader.answer t.disk name := by
  rw [h.disk]
  have hcache := h.cache name hn
  cases hl : t.loader.cache.lookup name with
  | some set => rw [answer_of_kept hl, answer_of_kept (hcache.trans hl)]
  | none => exact answer_eq_of_not_kept (hcache.trans hl) hl (file_congr h.base) h.validators

theorem SameBut.list (h : SameBut other s t) : s.loader.list s.disk = t.loader.list t.disk := by
  simp only [DirectoryLoader.list, h.disk, h.base]

/-- The same event has the same answer in both, but for a load of the one name. -/
theorem SameBut.step_answer (h : SameBut other s t) {e : Event} (he : e ≠ .load other) :
    (s.step e).2 = (t.step e).2 := by
  cases e with
  | load name =>
    have hn : name ≠ other := fun hn => he (hn ▸ rfl)
    exact congrArg Answer.set (h.answer hn)
  | list => exact congrArg Answer.names h.list
  | _ => rfl

theorem SameBut.step (h : SameBut other s t) (e : Event) :
    SameBut other (s.step e).1 (t.step e).1 := by
  obtain ⟨hbase, hvalidators, hcache⟩ := s.step_loader e
  obtain ⟨hbase', hvalidators', hcache'⟩ := t.step_loader e
  refine ⟨?_, ?_, ?_, fun name hn => ?_⟩
  · cases e <;> simp [Scene.step, h.disk]
  · rw [hbase, hbase', h.base]
  · rw [hvalidators, hvalidators', h.validators]
  · rw [hcache, hcache', h.cache name hn]
    by_cases he : e = .load other
    · subst he
      simp [Scene.step, kept?, Ne.symm hn]
    · rw [h.step_answer he]

/-- A record without the loads of one name. -/
def exceptLoads (other : String) (past : List (Event × Answer)) : List (Event × Answer) :=
  past.filter (·.1 ≠ .load other)

theorem SameBut.record (h : SameBut other s t) (events : List Event) :
    exceptLoads other (s.record events) = exceptLoads other (t.record events) := by
  induction events generalizing s t with
  | nil => rfl
  | cons e rest ih =>
    have hrest := ih (h.step e)
    unfold exceptLoads at hrest ⊢
    rw [Scene.record, Scene.record, List.filter_cons, List.filter_cons, hrest]
    by_cases he : e = .load other
    · simp [he]
    · rw [h.step_answer he]

theorem sameBut_load (s : Scene) (other : String) : SameBut other (s.step (.load other)).1 s := by
  obtain ⟨hbase, hvalidators, hcache⟩ := s.step_loader (.load other)
  refine ⟨rfl, hbase, hvalidators, fun name hn => ?_⟩
  rw [hcache]
  simp [Scene.step, kept?, Ne.symm hn]

end Scene

/-- The answer to a load after any events is the set that was read first since the last reload,
and else what the files are now. Events that read no set might as well not have been, and the
loads of one name are nothing to the others. -/
theorem answer_after (base : Path) (validators : Validator.Table) (d : Disk) (events : List Event)
    (name : String) :
    let start : Scene := ⟨d, { base, validators }⟩
    let s := start.after events
    (∀ set, Scene.firstRead name (start.record events) = some set →
      s.loader.answer s.disk name = .ok (some set)) ∧
    (Scene.firstRead name (start.record events) = none →
      Current s.disk start.loader name (s.loader.answer s.disk name)) ∧
    (∀ e later, s.Idle e → (s.step e).1.record later = s.record later) ∧
    ∀ other later, Scene.exceptLoads other ((s.step (.load other)).1.record later) =
      Scene.exceptLoads other (s.record later) := by
  intro start s
  have hlookup := Scene.lookup_after (s := start) rfl events name
  refine ⟨fun set h => answer_of_kept (hlookup.trans h), fun h => ?_, fun e later he => ?_,
    fun other later => (Scene.sameBut_load s other).record later⟩
  · obtain ⟨hbase, hvalidators⟩ := start.after_loader events
    have hnow : s.loader.answer s.disk name = start.loader.answer s.disk name :=
      answer_eq_of_not_kept (hlookup.trans h) rfl (file_congr hbase) hvalidators
    rw [hnow]
    exact current_of_not_kept rfl
  · rw [Scene.step_of_idle he]

end

/-- A directory with nothing in it. -/
def bare : Disk := { items := [(["s"], .directory)] }

def letters (n : Nat) : String := String.ofList (List.replicate n 'a')

theorem utf8ByteSize_letters (n : Nat) : (letters n).utf8ByteSize = n := by
  rw [letters, String.utf8ByteSize_ofList]
  induction n with
  | zero => rfl
  | succ n ih =>
    rw [List.replicate_succ, String.utf8Len_cons, ih]
    rfl

theorem not_mem_letters {c : Char} (hc : c ≠ 'a') (n : Nat) : c ∉ (letters n).toList := by
  rw [letters, String.toList_ofList]
  exact fun h => hc (List.eq_of_mem_replicate h)

theorem contains_letters {n : Nat} (hn : Disk.longestName < n) :
    bare.contains (file { base := ⟨"/", ["s"]⟩ } (letters n) ".yml") =
      .error (.nameTooLong (Path.child ⟨"/", ["s"]⟩ (letters n ++ ".yml")).text) := by
  have hlocate : bare.locate ⟨"/", ["s"]⟩ = .ok (some ["s"]) := rfl
  have hlong : Disk.longestName < (letters n ++ ".yml").utf8ByteSize := by
    rw [String.utf8ByteSize_append, utf8ByteSize_letters]
    omega
  have htoo : Disk.tooLong ⟨"/", ["s"]⟩ (letters n ++ ".yml") = true := by
    rw [Disk.tooLong, decide_eq_true hlong, Bool.or_true]
  have hnul : (letters n ++ ".yml").toList.contains '\x00' = false := by
    simpa [String.toList_append] using not_mem_letters (by decide) n
  have hdots : letters n ++ ".yml" ≠ ".." := by
    intro h
    rw [h] at hlong
    exact absurd hlong (by decide)
  rw [file_eq_child (not_mem_letters (by decide) n) (by decide),
    Disk.contains_child hlocate rfl hnul hdots, if_pos htoo]

/-- There is no file for the name, and still that is not the answer. -/
theorem not_absent_of_long_name :
    ¬∀ (d : Disk) (base : Path) (name : String),
      (∀ ending ∈ endings, d.find? (base.parts ++ [name ++ ending]) = none) →
        answer d { base } name = .ok none := by
  intro h
  have hnone : ∀ ending ∈ endings, bare.find? (["s"] ++ [letters 300 ++ ending]) = none :=
    fun _ _ => rfl
  have hanswer := h bare ⟨"/", ["s"]⟩ (letters 300) hnone
  have hlong : Disk.longestName < 300 := by decide
  rw [(current_of_not_kept rfl).untellable _ (.inl (contains_letters hlong))] at hanswer
  cases hanswer

end PathPolicy.DirectoryLoader
