import PathPolicy.Config
import PathPolicy.Host.Standard
import PathPolicy.Proofs.Files.Lookup

/-! What a configuration is when its file holds no mapping. A document of another kind, and one
that is malformed, leave the defaults; any other error of the reader goes through to the
caller. -/

namespace PathPolicy.Config

open Files

section

/-- Where a configuration is looked for. -/
def place (d : Disk) (path : Option String) : Path :=
  match path with
  | some s => if s.isEmpty then usualPath d else .ofText s
  | none => usualPath d

variable [Host] {d : Disk} {path : Option String} {bytes : List UInt8}

theorem load_of_contains (h : d.contains (place d path) = .ok true) :
    load d path = entriesIn d (place d path) >>= ofEntries := by
  cases path
  all_goals
    simp only [place] at h ⊢
    simp only [load, h]

/-- What is made of a file, by what its reader says. -/
theorem load_of_read (h : d.read (place d path) = .ok bytes) : load d path =
    match Host.readDocument bytes with
    | .ok (.map entries) => ofEntries entries
    | .ok _ => ⟨.ok {}, [.configNotMapping (place d path).text]⟩
    | .error (.malformed reason) => ⟨.ok {}, [.unreadableConfig (place d path).text reason]⟩
    | .error (.fault f) => ⟨.error (.fault f), []⟩ := by
  obtain ⟨q, hlocate, -⟩ := Disk.read_eq_ok_iff.1 h
  rw [load_of_contains (Disk.contains_eq_true_iff.2 ⟨q, hlocate⟩), entriesIn]
  simp only [h]
  cases Host.readDocument bytes with
  | ok v =>
    cases v with
    | map entries => exact pure_bind entries ofEntries
    | _ => rfl
  | error e => cases e <;> rfl

/-- A file that holds no mapping leaves the defaults and one warning, unless its reader fails with
an error that is not its own. That one goes through to the caller. -/
theorem load_of_no_mapping (hread : d.read (place d path) = .ok bytes)
    (hno : ∀ entries, Host.readDocument bytes ≠ .ok (.map entries)) :
    ((load d path).outcome = .ok {} ↔ ∀ f, Host.readDocument bytes ≠ .error (.fault f)) ∧
    (∀ f, (load d path).outcome = .error (.fault f) ↔
      Host.readDocument bytes = .error (.fault f)) ∧
    ((load d path).outcome = .ok {} → ∃ n, (load d path).notices = [n] ∧ n.level = .warning) := by
  rw [load_of_read hread]
  split
  · next entries h => exact absurd h (hno entries)
  · next h => exact ⟨by simp [h], by simp [h], fun _ => ⟨_, rfl, rfl⟩⟩
  · next h => exact ⟨by simp [h], by simp [h], fun _ => ⟨_, rfl, rfl⟩⟩
  · next f h => simp [h]

end

/-- A disk with one file. -/
def holding (bytes : List UInt8) : Disk := { items := [(["c.yml"], .file bytes)] }

theorem read_holding (bytes : List UInt8) :
    (holding bytes).read (place (holding bytes) (some "c.yml")) = .ok bytes := rfl

/-- A list. -/
def items : List UInt8 := [0x2d, 0x20, 0x61, 0x0a]

theorem load_of_no_mapping_items :
    (holding items).read (place (holding items) (some "c.yml")) = .ok items ∧
    (∀ entries, Host.readDocument items ≠ .ok (.map entries)) ∧
    let loaded := load (holding items) (some "c.yml")
    (loaded.outcome = .ok {} ↔ ∀ f, Host.readDocument items ≠ .error (.fault f)) ∧
    (∀ f, loaded.outcome = .error (.fault f) ↔ Host.readDocument items = .error (.fault f)) ∧
    (loaded.outcome = .ok {} → ∃ n, loaded.notices = [n] ∧ n.level = .warning) := by
  have hlist : Host.readDocument items = .ok (.list [.str "a"]) := by cbv
  have hno : ∀ entries, Host.readDocument items ≠ .ok (.map entries) := by
    intro entries h
    rw [hlist] at h
    cases h
  exact ⟨read_holding items, hno, load_of_no_mapping (read_holding items) hno⟩

/-- A byte that begins no character does not leave the defaults. -/
theorem not_default_of_undecodable :
    ¬∀ (d : Disk) (path : Option String) (bytes : List UInt8),
      d.read (place d path) = .ok bytes →
      (∀ entries, Host.readDocument bytes ≠ .ok (.map entries)) →
        (load d path).outcome = .ok {} := by
  intro h
  have hstray : Host.readDocument [0xff, 0x0a] = .error (.fault _) :=
    Host.readDocument_of_undecodable rfl
  have hload := h (holding [0xff, 0x0a]) (some "c.yml") _ (read_holding _) (by simp [hstray])
  rw [load_of_read (read_holding _), hstray] at hload
  cases hload

end PathPolicy.Config
