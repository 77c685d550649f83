import PathPolicy.Proofs.Assembly.Bootstrap
import PathPolicy.Proofs.Loader.Names

/-! What a source lists against what it answers. Listing goes from the files to the names, loading
from a name to its files, and the two are inverse except on a file that is called as an ending. -/

namespace PathPolicy

open Files

variable {d : Disk} {name ending : String} {names : List String}

namespace DirectoryLoader

/-! Names and files. -/

/-- Can stand in the name of a file. -/
structure Writable (name : String) : Prop where
  separator : '/' ∉ name.toList
  nul : '\x00' ∉ name.toList

theorem Writable.of_append (h : Writable (name ++ ending)) : Writable name where
  separator := fun hmem => h.separator (by simp [String.toList_append, hmem])
  nul := fun hmem => h.nul (by simp [String.toList_append, hmem])

theorem writable_empty : Writable "" := ⟨by simp, by simp⟩

theorem writable_ending (he : ending ∈ endings) : Writable ending := by
  have hchars : ∀ e ∈ endings, '/' ∉ e.toList ∧ '\x00' ∉ e.toList := by decide
  exact ⟨(hchars ending he).1, (hchars ending he).2⟩

theorem ending_ne_empty (he : ending ∈ endings) : ending ≠ "" := by
  revert ending
  decide

theorem append_ne_empty (he : ending ∈ endings) : name ++ ending ≠ "" := by
  simp [ending_ne_empty he]

theorem append_ne_dots (he : ending ∈ endings) : name ++ ending ≠ ".." := by
  have hlength : 4 ≤ ending.toList.length := by
    revert ending
    decide
  intro h
  have hdots : (name ++ ending).toList.length = 2 := by
    rw [h]
    decide
  rw [String.toList_append, List.length_append] at hdots
  omega

theorem nul_append (he : ending ∈ endings) (hname : '\x00' ∉ name.toList) :
    (name ++ ending).toList.contains '\x00' = false := by
  simpa [String.toList_append] using And.intro hname (writable_ending he).nul

theorem stem_ending (he : ending ∈ endings) : Path.stem ending = ending := by
  revert ending
  decide

theorem stem_name (he : ending ∈ endings) (hname : name ≠ "") :
    Path.stem (name ++ ending) = name := by
  have hdot : ∀ e ∈ endings, e.toList = '.' :: e.toList.tail ∧ '.' ∉ e.toList.tail ∧
      e.toList.tail ≠ [] := by decide
  obtain ⟨hcons, hmem, htail⟩ := hdot ending he
  exact Path.stem_append hname hcons hmem htail

/-! What is listed. -/

variable [Host] {l : DirectoryLoader} {place : List String}

/-- The directory is there, in a place. -/
structure StandsAt (d : Disk) (l : DirectoryLoader) (place : List String) : Prop where
  located : d.locate l.base = .ok (some place)
  directory : d.isDirectory place = true

/-- The names in the directory are such as files have. -/
def NamesFiles (d : Disk) (l : DirectoryLoader) : Prop :=
  ∀ place, d.locate l.base = .ok (some place) → ∀ n ∈ d.names place, Writable n

theorem list_of_standsAt (h : l.StandsAt d place) : l.list d = .ok (sortedNames
    (((d.names place).filter fun n => endings.any (·.toList.isSuffixOf n.toList)).map Path.stem)) := by
  unfold list
  rw [h.located]
  show (if _ then _ else _) = _
  rw [h.directory]
  rfl

theorem mem_list_iff (h : l.StandsAt d place) (hlist : l.list d = .ok names) : name ∈ names ↔
    ∃ n ∈ d.names place, (∃ e ∈ endings, e.toList <:+ n.toList) ∧ Path.stem n = name := by
  obtain rfl := Except.ok.inj (hlist.symm.trans (list_of_standsAt h))
  simp [mem_sortedNames, List.isSuffixOf_iff_suffix, and_assoc]

/-- Only a directory has names to list. -/
theorem exists_standsAt (hlist : l.list d = .ok names) (hname : name ∈ names) :
    ∃ place, l.StandsAt d place := by
  unfold list at hlist
  cases hbase : d.locate l.base with
  | error f => simp [hbase, bind, Except.bind] at hlist
  | ok found =>
    cases found with
    | none =>
      simp [hbase, bind, Except.bind, pure, Except.pure] at hlist
      simp [hlist] at hname
    | some place =>
      cases hdir : d.isDirectory place with
      | true => exact ⟨place, hbase, hdir⟩
      | false =>
        simp [hbase, hdir, bind, Except.bind, pure, Except.pure] at hlist
        simp [hlist] at hname

/-- A name that is listed is an ending by itself, or has a file with an ending. -/
theorem listed_cases (hlist : l.list d = .ok names) (hname : name ∈ names) :
    ∃ place, l.StandsAt d place ∧ ∃ e ∈ endings,
      (name = e ∧ e ∈ d.names place) ∨ (name ≠ "" ∧ name ++ e ∈ d.names place) := by
  obtain ⟨place, hplace⟩ := exists_standsAt hlist hname
  obtain ⟨n, hn, ⟨e, he, before, hbefore⟩, rfl⟩ := (mem_list_iff hplace hlist).1 hname
  obtain ⟨s, rfl⟩ : ∃ s, n = s ++ e :=
    ⟨String.ofList before, String.toList_injective (by simp [hbefore])⟩
  refine ⟨place, hplace, e, he, ?_⟩
  by_cases hs : s = ""
  · subst hs
    rw [String.empty_append] at hn ⊢
    exact .inl ⟨stem_ending he, hn⟩
  · rw [stem_name he hs]
    exact .inr ⟨hs, hn⟩

theorem mem_list_of_file (h : l.StandsAt d place) (hlist : l.list d = .ok names)
    (he : ending ∈ endings) (hmem : name ++ ending ∈ d.names place) (hname : name ≠ "") :
    name ∈ names := by
  refine (mem_list_iff h hlist).2 ⟨_, hmem, ⟨ending, he, ?_⟩, stem_name he hname⟩
  rw [String.toList_append]
  exact List.suffix_append _ _

theorem empty_not_mem (hlist : l.list d = .ok names) : "" ∉ names := by
  intro hname
  obtain ⟨_, -, e, he, ⟨hempty, -⟩ | ⟨hne, -⟩⟩ := listed_cases hlist hname
  · exact ending_ne_empty he hempty.symm
  · exact hne rfl

/-! What a load sees. -/

theorem contains_file (h : l.StandsAt d place) (hname : Writable name) (he : ending ∈ endings) :
    d.contains (l.file name ending) =
      if Disk.tooLong l.base (name ++ ending) then
        .error (.nameTooLong (l.base.child (name ++ ending)).text)
      else .ok (decide (name ++ ending ∈ d.names place)) := by
  rw [file_eq_child hname.separator he, Disk.contains_child h.located h.directory
    (nul_append he hname.nul) (append_ne_dots he)]

/-- A file that exists is found, or is too far away to tell. -/
theorem contains_file_ne_false (h : l.StandsAt d place) (hname : Writable name)
    (he : ending ∈ endings) (hmem : name ++ ending ∈ d.names place) :
    d.contains (l.file name ending) ≠ .ok false := by
  rw [contains_file h hname he, decide_eq_true hmem]
  split <;> simp

theorem tooLong_of_contains_ne_true (h : l.StandsAt d place) (hname : Writable name)
    (he : ending ∈ endings) (hmem : name ++ ending ∈ d.names place)
    (hne : d.contains (l.file name ending) ≠ .ok true) :
    Disk.tooLong l.base (name ++ ending) = true := by
  rw [contains_file h hname he, decide_eq_true hmem] at hne
  by_contra hshort
  exact hne (if_neg hshort)

theorem exists_locate (hlist : l.list d = .ok names) : ∃ found, d.locate l.base = .ok found := by
  cases hbase : d.locate l.base with
  | error f => simp [list, hbase, bind, Except.bind] at hlist
  | ok found => exact ⟨found, rfl⟩

/-- What is found stands in the directory, and is not too far away. -/
theorem standsAt_of_contains (hlist : l.list d = .ok names) (hslash : '/' ∉ name.toList)
    (he : ending ∈ endings) (h : d.contains (l.file name ending) = .ok true) :
    Writable name ∧ Disk.tooLong l.base (name ++ ending) = false ∧
      ∃ place, l.StandsAt d place ∧ name ++ ending ∈ d.names place := by
  obtain ⟨found, hfound⟩ := exists_locate hlist
  have hchild := h
  rw [file_eq_child hslash he] at hchild
  have hname : Writable name := by
    refine ⟨hslash, fun hnul => ?_⟩
    rw [Disk.contains_child_of_nul (by simp [String.toList_append, hnul])] at hchild
    cases hchild
  obtain ⟨place, hplace⟩ : ∃ place, l.StandsAt d place := by
    by_contra hno
    have hbase : d.isDirectoryAt l.base = .ok false := by
      rw [Disk.isDirectoryAt, hfound]
      cases found with
      | none => rfl
      | some place =>
        have hdir : d.isDirectory place = false :=
          Bool.not_eq_true _ ▸ fun hdir => hno ⟨place, hfound, hdir⟩
        exact congrArg Except.ok hdir
    exact Disk.contains_below_ne_true hbase (by simp) hchild
  rw [contains_file hplace hname he] at h
  split at h
  · cases h
  · next hshort => exact ⟨hname, by simpa using hshort, place, hplace,
      of_decide_eq_true (Except.ok.inj h)⟩

/-! The two against each other. -/

/-- Every name that is listed is answered. -/
def Answers (d : Disk) (l : DirectoryLoader) (names : List String) : Prop :=
  ∀ name ∈ names, l.answer d name ≠ .ok none

/-- Every name that is answered is listed. -/
def Lists (d : Disk) (l : DirectoryLoader) (names : List String) : Prop :=
  ∀ name, '/' ∉ name.toList → Told d l name → l.answer d name ≠ .ok none → name ∈ names

/-- No file is called as an ending. -/
def Plain (d : Disk) (l : DirectoryLoader) : Prop :=
  ∀ e ∈ endings, d.contains (l.file "" e) ≠ .ok true

/-- A file that is too far away under its own name is so under any longer one. -/
theorem contains_longer {other : String} (h : l.StandsAt d place) (he : ending ∈ endings)
    (hmem : ending ∈ d.names place) (hplain : d.contains (l.file "" ending) ≠ .ok true)
    (ho : other ∈ endings) : d.contains (l.file ending other) ≠ .ok false := by
  have hlong := tooLong_of_contains_ne_true h writable_empty he (by simpa using hmem) hplain
  rw [String.empty_append] at hlong
  have hle : ending.utf8ByteSize ≤ (ending ++ other).utf8ByteSize := by
    rw [String.utf8ByteSize_append]
    omega
  have hlonger := Disk.tooLong_of_le (ending_ne_empty he) (append_ne_empty ho) hle hlong
  rw [contains_file h (writable_ending he) ho, if_pos hlonger]
  simp

theorem answers_of_plain (hnames : NamesFiles d l) (hplain : Plain d l)
    (hlist : l.list d = .ok names) : Answers d l names := by
  intro name hname hnone
  obtain ⟨place, hplace, e, he, ⟨rfl, hmem⟩ | ⟨-, hmem⟩⟩ := listed_cases hlist hname
  · exact contains_longer hplace he hmem (hplain name he) he (absent_of_answer hnone name he)
  · have hwritable : Writable name := (hnames place hplace.located _ hmem).of_append
    exact contains_file_ne_false hplace hwritable he hmem (absent_of_answer hnone e he)

theorem lists_of_plain (hkept : l.cache = []) (hplain : Plain d l) (hlist : l.list d = .ok names) :
    Lists d l names := by
  intro name hslash htold hanswer
  obtain ⟨e, he, hexists⟩ := exists_file_of_answer (by rw [hkept]; rfl) htold hanswer
  obtain ⟨-, -, place, hplace, hmem⟩ := standsAt_of_contains hlist hslash he hexists
  refine mem_list_of_file hplace hlist he hmem fun hname => ?_
  subst hname
  exact hplain e he hexists

/-- The first ending is the shortest, so that it can be told of it as well. -/
theorem told_of_contains (hlist : l.list d = .ok names) (hslash : '/' ∉ name.toList)
    (he : ending ∈ endings) (h : d.contains (l.file name ending) = .ok true) : Told d l name := by
  obtain ⟨hname, hshort, place, hplace, -⟩ := standsAt_of_contains hlist hslash he h
  have hfirst : Disk.tooLong l.base (name ++ ".yml") = false := by
    by_contra hlong
    have hle : (name ++ ".yml").utf8ByteSize ≤ (name ++ ending).utf8ByteSize := by
      have hending : ∀ e ∈ endings, ".yml".utf8ByteSize ≤ e.utf8ByteSize := by decide
      have := hending ending he
      rw [String.utf8ByteSize_append, String.utf8ByteSize_append]
      omega
    have hlonger := Disk.tooLong_of_le (append_ne_empty (by simp [endings])) (append_ne_empty he) hle
      (by simpa using hlong)
    rw [hshort] at hlonger
    cases hlonger
  have hyml := contains_file hplace hname (show ".yml" ∈ endings by simp [endings])
  rw [hfirst] at hyml
  rintro f (hf | ⟨hf, hf'⟩)
  · cases hyml.symm.trans hf
  · rcases List.mem_pair.1 he with rfl | rfl
    · cases h.symm.trans hf
    · cases h.symm.trans hf'

/-- A file that is called as an ending is answered under the empty name, which no listing has. -/
theorem plain_of_lists (hlist : l.list d = .ok names) (h : Lists d l names) : Plain d l := by
  intro e he hexists
  have htold := told_of_contains hlist writable_empty.separator he hexists
  rcases absent_or_prefers htold with habsent | ⟨_, _, _, hprefers⟩
  · cases (habsent e he).symm.trans hexists
  · exact empty_not_mem hlist
      (h "" writable_empty.separator htold (answer_ne_none_of_prefers hprefers))

end DirectoryLoader

namespace Loader

variable [Host]

/-- No directory that is part of the source has a file that is called as an ending. -/
inductive Tidy (d : Disk) : Loader → Prop
  | directory {l : DirectoryLoader} : l.NamesFiles d → l.Plain d → Tidy d (.directory l)
  | memory (sets : NamedSets) : Tidy d (.memory sets)
  | composite {loaders : List Loader} : (∀ l ∈ loaders, Tidy d l) → Tidy d (.composite loaders)

variable {l : Loader}

theorem Tidy.answers (h : l.Tidy d) (hlist : l.list d = .ok names) (hname : name ∈ names) :
    l.answer d name ≠ .ok none := by
  induction h generalizing names with
  | directory hfiles hplain =>
    rw [answer_directory]
    rw [list] at hlist
    exact DirectoryLoader.answers_of_plain hfiles hplain hlist name hname
  | memory sets =>
    rw [list] at hlist
    cases hlist
    obtain ⟨e, he, rfl⟩ := List.mem_map.1 (mem_sortedNames.1 hname)
    rw [answer_memory]
    intro hnone
    have hmissing := List.lookup_eq_none_iff.1 (Except.ok.inj hnone) e he
    simp at hmissing
  | composite _ ih =>
    have hunion := list_composite_eq_ok_iff.1 hlist
    obtain ⟨m, hm, own, hown, hname⟩ := (hunion.mem_iff name).1 hname
    rw [answer_composite, Ne, firstOf_eq_none_iff]
    exact fun h => ih m hm hown hname (h _ (List.mem_map_of_mem hm))

end Loader

namespace Assembly

variable [Host] {c : Config} {l : Loader} {n : String}

theorem outcome_ne_setNotFound (htidy : l.Tidy d) (hc : c.schemaSets = []) :
    (registry d (some c) (some l)).outcome ≠ .error (.definition (.setNotFound n)) := by
  cases hissues : c.issues d with
  | error f => simp [registry_of_unjudged hissues]
  | ok issues =>
    cases hfirst : issues.find? (·.isError) with
    | some i => simp [registry_of_error hissues hfirst]
    | none =>
      have hno : ∀ i ∈ issues, i.isError = false := by simpa using hfirst
      obtain ⟨mode, hmake⟩ := exists_mode hissues hno
      have hsets : setNames d c l = l.list d := by simp [setNames, hc]
      rw [outcome_registry hissues hno hmake, hsets]
      cases hlist : l.list d with
      | error f => simp [Except.mapError, Except.bind]
      | ok names =>
        intro h
        obtain ⟨before, name, after, sets, rfl, -, hfails⟩ := foldlM_enlist_eq_error_iff.1 h
        cases hfails with
        | missing hanswer => exact htidy.answers hlist (by simp) hanswer
        | loading hanswer => exact l.answer_ne_setNotFound hanswer

end Assembly

namespace DirectoryLoader

open Assembly

/-- Listing and loading agree just where no file is called as an ending; and then a registry made of
all sets that are listed lacks none. -/
theorem list_agrees_iff [Host] (d : Disk) (l : DirectoryLoader) (names : List String)
    (hfiles : NamesFiles d l) (hlist : l.list d = .ok names) :
    (Answers d l.reload names ∧ Lists d l.reload names ↔ Plain d l) ∧
      ∀ c loader tree, c.schemaSets = [] → source d c loader = .ok tree → tree.Tidy d →
        ∀ name, (registry d (some c) loader).outcome ≠ .error (.definition (.setNotFound name)) := by
  refine ⟨⟨fun h => ?_, fun h => ?_⟩, fun c loader tree hc hsource htidy name => ?_⟩
  · exact plain_of_lists (l := l.reload) hlist h.2
  · exact ⟨answers_of_plain (l := l.reload) hfiles h hlist, lists_of_plain rfl h hlist⟩
  · rw [registry_source hsource]
    exact outcome_ne_setNotFound htidy hc

def reader : DirectoryLoader := { base := ⟨"/", ["s"]⟩ }

/-- Names with dots in them and in front, both endings, and a name that has each of them. -/
def dotted : Disk where
  items := ["a.b.yml", ".hidden.yaml", "c.yml", "c.yaml", "x.yml.yaml", "notes.txt"].map
    fun name => (["s", name], .file [])

theorem list_agrees_iff_dotted : (Answers dotted reader [".hidden", "a.b", "c", "x.yml"] ∧
    Lists dotted reader [".hidden", "a.b", "c", "x.yml"]) ∧
      ∀ name, (registry dotted (some {}) (some (.directory reader))).outcome ≠
        .error (.definition (.setNotFound name)) := by
  have hstands : reader.StandsAt dotted ["s"] := ⟨rfl, rfl⟩
  have hfiles : NamesFiles dotted reader := by
    intro place hplace n hn
    cases hplace.symm.trans hstands.located
    have hchars : ∀ n ∈ dotted.names ["s"], '/' ∉ n.toList ∧ '\x00' ∉ n.toList := by decide
    exact ⟨(hchars n hn).1, (hchars n hn).2⟩
  have hlist : reader.list dotted = .ok [".hidden", "a.b", "c", "x.yml"] := by
    have hstems : ((dotted.names ["s"]).filter fun n =>
        endings.any (·.toList.isSuffixOf n.toList)).map Path.stem =
          ["a.b", ".hidden", "c", "c", "x.yml"] := by decide +kernel
    rw [list_of_standsAt hstands, hstems]
    refine congrArg _ (eq_of_sorted (pairwise_sortedNames _) (by decide) fun name => ?_)
    simp only [mem_sortedNames, List.mem_cons, List.not_mem_nil, or_false]
    tauto
  have hplain : Plain dotted reader := by
    intro e he
    rcases List.mem_pair.1 he with rfl | rfl
    · rw [show dotted.contains (reader.file "" ".yml") = .ok false from rfl]
      simp
    · rw [show dotted.contains (reader.file "" ".yaml") = .ok false from rfl]
      simp
  have h := list_agrees_iff dotted reader [".hidden", "a.b", "c", "x.yml"] hfiles hlist
  exact ⟨h.1.2 hplain, h.2 {} (some (.directory reader)) _ rfl rfl (.directory hfiles hplain)⟩

/-- A directory with a policy file. -/
def filed (name : String) : Disk := { items := [(["s", name], .file [])] }

theorem sortedNames_singleton (name : String) : sortedNames [name] = [name] := by
  rw [sortedNames, List.mergeSort_singleton]
  rfl

/-- The name of such a file is listed, is not answered, and keeps a registry from being made. -/
theorem not_answers_of_bare_ending : reader.list (filed ".yml") = .ok [".yml"] ∧
    reader.answer (filed ".yml") ".yml" = .ok none ∧
    (registry (filed ".yml") (some {}) (some (.directory reader))).outcome =
      .error (.definition (.setNotFound ".yml")) := by
  have hstands : reader.StandsAt (filed ".yml") ["s"] := ⟨rfl, rfl⟩
  have hlist : reader.list (filed ".yml") = .ok [".yml"] :=
    (list_of_standsAt hstands).trans (congrArg _ (sortedNames_singleton ".yml"))
  have hanswer : reader.answer (filed ".yml") ".yml" = .ok none :=
    (current_of_not_kept rfl).absent rfl rfl
  have hissues : Config.issues (filed ".yml") {} = .ok [] := by cbv
  obtain ⟨mode, hmake⟩ := exists_mode hissues (by simp)
  have hnames : setNames (filed ".yml") {} (.directory reader) = .ok [".yml"] := by
    show Loader.list (filed ".yml") (.directory reader) = _
    rw [Loader.list, hlist]
  refine ⟨hlist, hanswer, ?_⟩
  rw [outcome_registry hissues (by simp) hmake, hnames]
  exact Fails.outcome (.nil _) (.missing ((Loader.answer_directory reader).trans hanswer)) []

end DirectoryLoader

end PathPolicy
