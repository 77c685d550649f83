import PathPolicy.Host.Standard
import PathPolicy.Proofs.Files.Overwriting
import PathPolicy.Proofs.Loader.History

/-! Files that hold no document. A load of one is refused and leaves the loader as it was, so that
after any number of them the first load of a repaired file gives what is in it then. -/

namespace PathPolicy.DirectoryLoader

open Files

section

variable [Host] {d : Disk} {l : DirectoryLoader} {name : String} {p : Path} {bytes : List UInt8}

/-- What a load gives of a set that was read. One whose name has no text is not given. -/
def shown (set : SchemaSet) : Except Failure (Option SchemaSet) :=
  match set.name.unwritable? with
  | none => .ok (some set)
  | some f => .error (.fault f)

theorem answer_of_read (hkept : l.cache.lookup name = none) (hp : Prefers d l name p)
    (hread : d.read p = .ok bytes) :
    l.answer d name = (l.parse name p bytes).bind shown := by
  have hcurrent := current_of_not_kept (d := d) hkept
  cases hparse : l.parse name p bytes with
  | error e => exact hcurrent.malformed p bytes e hp hread hparse
  | ok set =>
    show _ = shown set
    unfold shown
    cases hname : set.name.unwritable? with
    | none => exact hcurrent.parsed p bytes set hp hread hparse hname
    | some f => exact hcurrent.unnamed p bytes set f hp hread hparse hname

/-- The answers for a file without a document. What the reader calls malformed is reported with
the name of the file; any other error of the reader is the answer itself. -/
inductive Refused (p : Path) (bytes : List UInt8) : Except Failure (Option SchemaSet) → Prop
  | named {reason : String} {e : DefinitionError} :
    Host.readDocument bytes = .error (.malformed reason) →
    e.code = .invalidSchemaSet → e.details = [("file", .str p.text)] →
      Refused p bytes (.error (.definition e))
  | fault {f : Fault} : Host.readDocument bytes = .error (.fault f) →
    Refused p bytes (.error (.fault f))

theorem Refused.idle {answer : Except Failure (Option SchemaSet)} (h : Refused p bytes answer) :
    given? answer = none := by
  cases h <;> rfl

theorem refused_of_prefers (hkept : l.cache.lookup name = none) (hp : Prefers d l name p)
    (hread : d.read p = .ok bytes) (hno : ∀ v, Host.readDocument bytes ≠ .ok v) :
    Refused p bytes (l.answer d name) := by
  rw [answer_of_read hkept hp hread, parse]
  cases hdoc : Host.readDocument bytes with
  | ok v => exact absurd hdoc (hno v)
  | error e =>
    cases e with
    | malformed reason => exact .named hdoc rfl rfl
    | fault f => exact .fault hdoc

/-- Writing a file that is there leaves the names of files where they were. -/
theorem Prefers.put {place : List String} {content : List UInt8} (h : Prefers d l name p)
    (hfile : d.find? place = some (.file bytes)) :
    Prefers (d.put place (.file content)) l name p := by
  cases h with
  | first h => exact .first ((Disk.contains_put hfile).trans h)
  | second h h' =>
    exact .second ((Disk.contains_put hfile).trans h) ((Disk.contains_put hfile).trans h')

namespace Scene

variable {s : Scene}

theorem after_of_idle {events : List Event} (h : ∀ e ∈ events, s.Idle e) : s.after events = s := by
  induction events with
  | nil => rfl
  | cons e rest ih =>
    have hstep := step_of_idle (h e (by simp))
    show (s.step e).1.after rest = s
    rw [hstep]
    exact ih fun e he => h e (by simp [he])

/-- A file without a document is refused as often as it is loaded, and nothing is kept of that. The
first load after it was written again gives the set that it holds then. -/
theorem refused_until_repaired {place : List String} (hkept : s.loader.cache.lookup name = none)
    (hp : Prefers s.disk s.loader name p) (hlocate : s.disk.locate p = .ok (some place))
    (hfile : s.disk.find? place = some (.file bytes))
    (hno : ∀ v, Host.readDocument bytes ≠ .ok v) (n : Nat) :
    let tried := s.after (List.replicate n (.load name))
    tried = s ∧ Refused p bytes (tried.loader.answer tried.disk name) ∧
    ∀ good, let repaired := (tried.step (.write place good)).1
      repaired.loader.answer repaired.disk name = (s.loader.parse name p good).bind shown := by
  have hread : s.disk.read p = .ok bytes := Disk.read_eq_ok_iff.2 ⟨place, hlocate, hfile⟩
  have hrefused := refused_of_prefers hkept hp hread hno
  have htried : s.after (List.replicate n (.load name)) = s := by
    refine after_of_idle fun e he => ?_
    rw [List.eq_of_mem_replicate he]
    exact hrefused.idle
  rw [htried]
  exact ⟨rfl, hrefused, fun good =>
    answer_of_read hkept (hp.put hfile) (Disk.read_put hfile hlocate)⟩

end Scene

end

namespace Scene

/-- A directory with one file, and a loader of it. -/
def spoilt (bytes : List UInt8) : Scene where
  disk := { items := [(["s", "bad.yml"], .file bytes)] }
  loader := { base := ⟨"/", ["s"]⟩ }

/-- The path of the one file. -/
def bad : Path := ⟨"/", ["s", "bad.yml"]⟩

theorem prefers_bad (bytes : List UInt8) :
    Prefers (spoilt bytes).disk (spoilt bytes).loader "bad" bad := by
  have hfile : (spoilt bytes).loader.file "bad" ".yml" = bad := rfl
  rw [← hfile]
  exact .first rfl

/-- A list that is not closed. -/
def cut : List UInt8 := [0x5b]

theorem refused_until_repaired_cut :
    (spoilt cut).loader.cache.lookup "bad" = none ∧
    Prefers (spoilt cut).disk (spoilt cut).loader "bad" bad ∧
    (spoilt cut).disk.locate bad = .ok (some ["s", "bad.yml"]) ∧
    (spoilt cut).disk.find? ["s", "bad.yml"] = some (.file cut) ∧
    (∀ v, Host.readDocument cut ≠ .ok v) ∧
    let tried := (spoilt cut).after (List.replicate 2 (.load "bad"))
    tried = spoilt cut ∧ Refused bad cut (tried.loader.answer tried.disk "bad") ∧
    ∀ good, let repaired := (tried.step (.write ["s", "bad.yml"] good)).1
      repaired.loader.answer repaired.disk "bad" =
        ((spoilt cut).loader.parse "bad" bad good).bind shown := by
  have hcut : (Host.readDocument cut).toOption.isNone = true := by decide +kernel
  have hno : ∀ v, Host.readDocument cut ≠ .ok v := by
    intro v h
    rw [h] at hcut
    cases hcut
  exact ⟨rfl, prefers_bad cut, rfl, rfl, hno,
    refused_until_repaired rfl (prefers_bad cut) rfl rfl hno 2⟩

/-- A byte that begins no character, and the end of its line. -/
def stray : List UInt8 := [0xff, 0x0a]

/-- A byte that begins no character is not reported as an error of the file. -/
theorem not_named_of_undecodable :
    ¬∀ (s : Scene) (name : String) (p : Path) (bytes : List UInt8),
      s.loader.cache.lookup name = none → Prefers s.disk s.loader name p →
      s.disk.read p = .ok bytes → (∀ v, Host.readDocument bytes ≠ .ok v) →
      ∃ e, s.loader.answer s.disk name = .error (.definition e) ∧ e.code = .invalidSchemaSet ∧
        e.details = [("file", .str p.text)] := by
  intro h
  have hstray : Host.readDocument stray = .error (.fault _) := Host.readDocument_of_undecodable rfl
  have hread : (spoilt stray).disk.read bad = .ok stray := rfl
  obtain ⟨e, he, -⟩ := h _ "bad" bad _ rfl (prefers_bad _) hread (by simp [hstray])
  rw [answer_of_read rfl (prefers_bad _) hread, parse, hstray] at he
  cases he

end Scene

end PathPolicy.DirectoryLoader
