import PathPolicy.Host.Standard
import PathPolicy.Proofs.PolicyFile.Settings
import PathPolicy.SchemaSet
import Mathlib

/-! How the reading of a policy file ends: with a schema set, with a report, or, if an
entry cannot be read and what is wrong with it cannot be reported either, with a fault. -/

namespace PathPolicy.SchemaSet

section

variable {fields : Entries}

/-- The items that are read as entries. -/
def itemsOf (fields : Entries) : List Value :=
  match fields.field? "schemas" with
  | some (.list items) => items
  | _ => []

theorem items_eq_itemsOf {set : String} {l : List Value}
    (h : items set ((fields.field? "schemas").getD .null) = .ok l) : l = itemsOf fields := by
  unfold itemsOf
  cases hf : fields.field? "schemas" with
  | none =>
    rw [hf] at h
    cases h
    rfl
  | some v =>
    rw [hf, Option.getD_some] at h
    unfold items at h
    split at h
    · split at h <;> cases h
      rfl
    · rename_i ht
      cases h
      cases v with
      | list items =>
        cases items with
        | nil => rfl
        | cons item rest => simp [Value.truthy] at ht
      | _ => rfl

variable [Host] {table : Validator.Table}

def entryPart (table : Validator.Table) (v : Value) : Part where
  fine := ∃ entries, v = .map entries ∧ Part.AllFine (Schema.Entry.parts table entries)
  stops := ∃ entries, v = .map entries ∧ Part.Stop (Schema.Entry.parts table entries)

/-- The entries that a file lists, each with what its keys lead back to. -/
def entriesOf : Value → List Value
  | .map fields =>
    let items := itemsOf (Entries.follow [.map fields] fields)
    items.map (item [.list items, .map fields])
  | _ => []

/-- The entries before some entry are accepted, and that entry stops the reading. -/
def Stops (table : Validator.Table) (v : Value) : Prop :=
  ∃ (before : List Value) (entries : Entries) (after : List Value),
    entriesOf v = before ++ .map entries :: after ∧
    (∀ item ∈ before, (entryPart table item).fine) ∧
    Part.Stop (Schema.Entry.parts table entries)

end

end PathPolicy.SchemaSet
