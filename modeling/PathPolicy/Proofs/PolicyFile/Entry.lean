import PathPolicy.Proofs.PolicyFile.Part
import PathPolicy.Schema.Entry

/-! The parts of an entry, in the order in which they are read. An entry is accepted if
all of them are in order; it stops the reading if the first that is not cannot be
reported. -/

namespace PathPolicy

variable [Host]

/-- The value has no text. -/
def Value.Unwritable (v : Value) : Prop := v.unwritable? ≠ none

/-- The candidate that the name of a validator stands for. -/
def Validator.Table.named? (table : Validator.Table) : Value → Option Validator.Candidate
  | .null => table.complete.find? (Validator.key none)
  | .str s => table.complete.find? (Validator.key (some s))
  | _ => none

namespace Schema.Entry

/-- Flags are a number, or letters that are all known. -/
inductive Flagged : Value → Regex.Flags → Prop
  | number (n : Int) : Flagged (.int n) n
  | letters {s : String} {fs : List Regex.Flag} :
      (Text.lower s).toList.map flagOfLetter? = fs.map some →
      Flagged (.str s) (Regex.Flags.addAll 0 fs)

section Parts

variable (table : Validator.Table) (entries : Entries)

def IsPattern : Prop := entries.field? "is_regex" = some (.bool true)

def pathOf : Value := (entries.field? "path").getD .null

def flagsOf : Value := (entries.field? "flags").getD (.int 0)

def validatorOf : Value := (entries.field? "data_validator").getD .null

def keysPart : Part where
  fine := ∀ e ∈ entries, ∃ word ∈ knownKeys, e.1 = .str word
  stops := ∃ e ∈ entries, e.1.isText = false

def booleanPart (key : String) : Part where
  fine := ∀ v, entries.field? key = some v → ∃ b, v = .bool b
  stops := ∃ v, entries.field? key = some v ∧ (∀ b, v ≠ .bool b) ∧ v.Unwritable

/-- Flags are looked at for a pattern only. -/
def flagsPart : Part where
  fine := IsPattern entries → ∃ w, Flagged (flagsOf entries) w
  stops := IsPattern entries ∧ (∀ n, flagsOf entries ≠ .int n) ∧ (∀ s, flagsOf entries ≠ .str s) ∧
    (flagsOf entries).Unwritable

/-- A pattern compiles under its flags. What is wrong with its text can be reported, and
the limits that it meets and its flags cannot. -/
def selectorPart : Part where
  fine := ∃ s, pathOf entries = .str s ∧ Text.isBlankText s = false ∧
    (IsPattern entries → ∀ w, Flagged (flagsOf entries) w → ∃ p, Host.compile .pattern s w = .ok p)
  stops := (∀ s, pathOf entries ≠ .str s) ∧ (pathOf entries).Unwritable ∨
    ∃ s w fault, pathOf entries = .str s ∧ Text.isBlankText s = false ∧ IsPattern entries ∧
      Flagged (flagsOf entries) w ∧ Host.compile .pattern s w = .error fault ∧
      ∀ reason, fault ≠ .malformed reason

def validatorNamePart : Part where
  fine := ∃ c, table.named? (validatorOf entries) = some c
  stops := validatorOf entries ≠ .null ∧ (∀ s, validatorOf entries ≠ .str s) ∧
    (validatorOf entries).Unwritable

def validatorPart : Part where
  fine := ∃ c, table.named? (validatorOf entries) = some c ∧ ∀ u, c ≠ .value u
  stops := ∃ u, table.named? (validatorOf entries) = some (.value u) ∧ u.Unwritable

def allowancePart (field : AllowanceField) : Part where
  fine := ∀ v, entries.field? field.word = some v → ∃ a, Allowance.ofText? v.text = some a
  stops := ∃ v, entries.field? field.word = some v ∧ Allowance.ofText? v.text = none ∧ v.Unwritable

def namePart : Part where
  fine := ∀ v, entries.field? "name" = some v → v.truthy = true → ¬v.Unwritable
  stops := ∃ v, entries.field? "name" = some v ∧ v.truthy = true ∧ v.Unwritable

/-- The one text that is no key of metadata cannot be reported. -/
def metadataPart : Part where
  fine := ∀ v, entries.field? "metadata" = some v → v.truthy = true →
    ∃ items, v = .map items ∧ ∀ e ∈ items, ∃ k, e.1 = .str k ∧ k ≠ "self"
  stops := ∃ items, entries.field? "metadata" = some (.map items) ∧
    (∀ e ∈ items, e.1.isText = true) ∧ ∃ e ∈ items, e.1 = .str "self"

def documentationPart : Part where
  fine := ∃ s, entries.field? "documentation" = some (.str s) ∧ Text.isBlankText s = false
  stops := False

def parts : List Part :=
  [keysPart entries] ++
    ([booleanPart entries "is_regex", flagsPart entries, selectorPart entries] ++
      ([validatorNamePart table entries, validatorPart table entries] ++
        (AllowanceField.all.map (allowancePart entries) ++
          ([booleanPart entries "can_be_deleted"] ++
            ([namePart entries] ++ ([metadataPart entries] ++ [documentationPart entries]))))))

end Parts

end Schema.Entry

end PathPolicy
