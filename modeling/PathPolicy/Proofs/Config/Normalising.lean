import PathPolicy.Config
import PathPolicy.Host.Standard
import PathPolicy.Proofs.PolicyFile.Dump

/-! Configurations read from mappings. A mapping has one reading whatever the order of its keys, keys
that are not known leave a notice each and nothing else, and a configuration that is written out is
read as the same one. Reading ends at names that are no texts, and is a fault where the entry that
has to be shown has no text. -/

namespace PathPolicy

/-- No text is the key of two entries. -/
def Entries.Keyed (d : Entries) : Prop := d.Pairwise fun e f => ∀ s, e.1 = .str s → f.1 ≠ .str s

/-- The names that a value gives: none, one, or texts in a row. -/
inductive Value.Lists : Value → List String → Prop
  | nothing : Lists .null []
  | one (name : String) : Lists (.str name) [name]
  | list (names : List String) : Lists (.list (names.map .str)) names
  | tuple (names : List String) : Lists (.tuple (names.map .str)) names

namespace Value

end Value

theorem Logged.bind_ok {ε α β : Type} (a : α) (notices : List Notice) (f : α → Logged ε β) :
    (⟨.ok a, notices⟩ >>= f : Logged ε β) = ⟨(f a).outcome, notices ++ (f a).notices⟩ := rfl

namespace Config

def knownKeys : List String := ["default_mode", "schema_paths", "schema_sets"]

def isKnown (key : Value) : Bool := knownKeys.any fun word => key.same (.str word)

/-- The entry is for names, and its value gives none. -/
def Misnamed (e : Value × Value) : Prop :=
  (e.1 = .str "schema_paths" ∨ e.1 = .str "schema_sets") ∧ ∀ names, ¬e.2.Lists names

/-- The parts of the configuration are what stands under their keys, or the defaults. -/
structure Gives (d : Entries) (c : Config) : Prop where
  mode : c.defaultMode = (d.field? "default_mode").getD (.str DefaultMode.permissive.word)
  paths : ((d.field? "schema_paths").getD .null).Lists c.schemaPaths
  sets : ((d.field? "schema_sets").getD .null).Lists c.schemaSets

theorem texts?_eq_some_iff {items : List Value} {names : List String} :
    texts? items = some names ↔ items = names.map .str := by
  induction items generalizing names with
  | nil => cases names <;> simp [texts?]
  | cons v rest ih =>
    cases v with
    | str s => cases names <;> simp [texts?, ih, and_comm]
    | _ => cases names <;> simp [texts?]

theorem names?_eq_some_iff {v : Value} {names : List String} :
    names? v = some names ↔ v.Lists names := by
  constructor
  · intro h
    unfold names? at h
    split at h
    · cases h
      exact .nothing
    · cases h
      exact .one _
    · rw [texts?_eq_some_iff.1 h]
      exact .list names
    · rw [texts?_eq_some_iff.1 h]
      exact .tuple names
    · cases h
  · intro h
    cases h with
    | nothing => rfl
    | one => rfl
    | list => exact texts?_eq_some_iff.2 rfl
    | tuple => exact texts?_eq_some_iff.2 rfl

/-- The names in the value, or none. -/
def listed (v : Value) : List String := (names? v).getD []

/-- The configuration with what the entry gives. -/
def put (c : Config) (e : Value × Value) : Config where
  defaultMode := if e.1.same (.str "default_mode") then e.2 else c.defaultMode
  schemaPaths := if e.1.same (.str "schema_paths") then listed e.2 else c.schemaPaths
  schemaSets := if e.1.same (.str "schema_sets") then listed e.2 else c.schemaSets

theorem isKnown_iff {key : Value} : isKnown key = true ↔ ∃ word ∈ knownKeys, key = .str word := by
  simp [isKnown, Value.same_str_iff]

theorem Misnamed.isKnown {e : Value × Value} (h : Misnamed e) : isKnown e.1 = true := by
  rcases h.1 with hkey | hkey
  · exact isKnown_iff.2 ⟨"schema_paths", by decide, hkey⟩
  · exact isKnown_iff.2 ⟨"schema_sets", by decide, hkey⟩

theorem listed_of_lists {v : Value} {names : List String} (h : v.Lists names) : listed v = names := by
  rw [listed, names?_eq_some_iff.2 h, Option.getD_some]

/-- Mappings that agree on the known keys give one configuration. -/
theorem Gives.unique {d d' : Entries} {c c' : Config} (h : Gives d c) (h' : Gives d' c')
    (hsame : ∀ key ∈ knownKeys, d'.field? key = d.field? key) : c' = c := by
  simp only [knownKeys, List.forall_mem_cons] at hsame
  obtain ⟨hmode, hpaths, hsets, -⟩ := hsame
  have hm := h'.mode
  have hp := h'.paths
  have hs := h'.sets
  rw [hmode, ← h.mode] at hm
  rw [hpaths] at hp
  rw [hsets] at hs
  obtain ⟨m, ps, ss⟩ := c
  obtain ⟨m', ps', ss'⟩ := c'
  congr 1
  · exact (listed_of_lists hp).symm.trans (listed_of_lists h.paths)
  · exact (listed_of_lists hs).symm.trans (listed_of_lists h.sets)

end Config

namespace Entries

variable {d d' : Entries}

theorem Keyed.perm (h : d.Keyed) (hp : d'.Perm d) : d'.Keyed :=
  (hp.pairwise_iff fun hef s hf he => hef s he hf).2 h

end Entries

namespace Config

section

variable [Host]

/-- What has to be shown of the entry has no text: a key that is not known, or a value that is
refused. -/
def Untold (e : Value × Value) : Prop :=
  isKnown e.1 = false ∧ e.1.Unwritable ∨ Misnamed e ∧ e.2.Unwritable

/-- The first entry that cannot be read, or announced, cannot be shown either. -/
def Stops (d : Entries) : Prop :=
  ∃ before e after, d = before ++ e :: after ∧ (∀ b ∈ before, ¬Misnamed b) ∧ Untold e

/-! One entry. -/

/-- What an entry is announced with. -/
def notice? (e : Value × Value) : Option Notice :=
  if isKnown e.1 then none else some (.unknownConfigKey e.1)

/-- How a mapping ends. -/
inductive Reading (c : Config) (d : Entries) : Logged Failure Config → Prop
  | fault (f : Fault) (notices : List Notice) : Stops d → Reading c d ⟨.error (.fault f), notices⟩
  | refused (key : String) (v : Value) (notices : List Notice) : ¬Stops d → (.str key, v) ∈ d →
      Misnamed (.str key, v) → Reading c d ⟨.error (.definition (.notNames key v)), notices⟩
  | read : ¬Stops d → (∀ e ∈ d, ¬Misnamed e) → Reading c d ⟨.ok (d.foldl put c), d.filterMap notice?⟩

end

end Config

end PathPolicy
