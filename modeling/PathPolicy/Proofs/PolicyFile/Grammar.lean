import PathPolicy.Proofs.PolicyFile.Letters
import PathPolicy.Proofs.PolicyFile.Reading
import PathPolicy.Proofs.Value.Fields

/-! The grammar of policy files, said without the reader: which files are accepted, that
each schema is what its entry alone is read as, and that a report names the first entry
that is not accepted. -/

namespace PathPolicy

namespace Validator

variable {table : Table}

variable [Host]

end Validator

namespace Schema.Entry

variable {entries : Entries}

variable [Host] {table : Validator.Table}

end Schema.Entry

/-! What was followed once leads to nothing around it any more. -/

/-- The value does not lead to one of the `n` collections around it. -/
def Value.Rests (n : Nat) (v : Value) : Prop := ∀ r, v = .enclosing r → n ≤ r.up

variable {around : List Value}

theorem Value.follow_of_rests {v : Value} (h : v.Rests around.length) : v.follow around = v := by
  cases v with
  | enclosing r => rw [follow, List.getElem?_eq_none (h r rfl), Option.getD_none]
  | _ => rfl

theorem Entries.follow_of_rests {entries : Entries}
    (h : ∀ e ∈ entries, e.2.Rests around.length) : follow around entries = entries := by
  unfold follow
  conv_rhs => rw [← List.map_id entries]
  refine List.map_congr_left fun e he => ?_
  rw [Value.follow_of_rests (h e he), id_eq]

namespace SchemaSet

/-- Neither the item nor what its keys have leads to something around it. -/
structure Followed (n : Nat) (v : Value) : Prop where
  item : v.Rests n
  fields : ∀ fields, v = .map fields → ∀ e ∈ fields, e.2.Rests (n + 1)

theorem item_of_followed {v : Value} (h : Followed around.length v) : item around v = v := by
  unfold item
  rw [Value.follow_of_rests h.item]
  split
  · next fields =>
    have hrests : ∀ e ∈ fields, e.2.Rests (Value.map fields :: around).length := h.fields fields rfl
    rw [Entries.follow_of_rests hrests]
  · rfl

variable [Host] {table : Validator.Table}

section Alone

variable {set name : String} {index : Nat} {v item : Value} {s : Schema}

theorem entry_eq_ok_iff :
    entry set table index v = .ok s ↔ Schema.Entry.build v table = .ok s := by
  unfold entry
  split <;> simp_all

theorem entry_eq_definition_iff {e : DefinitionError} :
    entry set table index v = .error (.definition e) ↔
      ∃ cause, Schema.Entry.build v table = .error (.definition cause) ∧
        e = .inEntry set index cause := by
  unfold entry
  split
  · rename_i cause h
    simp [h, eq_comm]
  · rename_i h
    constructor
    · intro he
      exact absurd he (h e)
    · rintro ⟨cause, hc, -⟩
      exact absurd hc (h cause)

/-- A file with one entry. -/
def alone (item : Value) : Value := .map [(.str "schemas", .list [item])]

theorem ofValue_alone (h : Followed 2 item) : ofValue (alone item) name table =
    (entry name table 0 item).map fun s => { name := .str name, schemas := [s] } := by
  have hfollow : Entries.follow [alone item] [(.str "schemas", .list [item])] =
      [(.str "schemas", .list [item])] :=
    Entries.follow_of_rests (by simp [Value.Rests])
  have hitem : SchemaSet.item [.list [item], alone item] item = item := item_of_followed h
  have hschemas : Entries.field? [(.str "schemas", .list [item])] "schemas" =
      some (.list [item]) := by
    simp [Entries.field?, Entries.get?, Value.same]
  have hother (key : String) (h : key ≠ "schemas") :
      Entries.field? [(.str "schemas", .list [item])] key = none := by
    simp [Entries.field?, Entries.get?, Value.same, h.symm]
  have hread : ofValue (alone item) name table =
      (entries name table ([item].map (SchemaSet.item [.list [item], alone item])) >>=
        fun schemas => .ok { name := .str name, schemas }) := by
    rw [alone] at hfollow ⊢
    simp only [ofValue, hfollow, hschemas, hother "name" (by decide),
      hother "description" (by decide), hother "metadata" (by decide), Option.getD_some,
      Option.getD_none]
    rfl
  rw [hread, List.map_singleton, hitem]
  unfold entries
  cases h : entry name table 0 item <;> simp [h, bind, Except.bind, Except.map, pure, Except.pure]

theorem alone_eq_ok_iff (h : Followed 2 item) :
    (∃ one, ofValue (alone item) name table = .ok one ∧ one.schemas = [s]) ↔
      Schema.Entry.build item table = .ok s := by
  have hentry : entry name table 0 item = .ok s ↔ Schema.Entry.build item table = .ok s :=
    entry_eq_ok_iff
  rw [ofValue_alone h, ← hentry]
  cases entry name table 0 item <;> simp [Except.map]

end Alone

section Entries

variable {name : String} {items : List Value}

/-- The report is about the first entry that is not accepted. -/
theorem first_of_entries_eq_error {e : DefinitionError}
    (h : entries name table items = .error (.definition e)) :
    ∃ i item cause, items[i]? = some item ∧
      (∀ other ∈ items.take i, ∃ s, Schema.Entry.build other table = .ok s) ∧
      e = .inEntry name i cause ∧ Schema.Entry.build item table = .error (.definition cause) := by
  obtain ⟨before, ⟨item, i⟩, after, hsplit, hbefore, hitem⟩ := Failure.split_of_mapM_eq_error h
  obtain ⟨cause, hbuild, rfl⟩ := entry_eq_definition_iff.1 hitem
  have hplace : items.zipIdx[before.length]? = some (item, i) := by simp [hsplit]
  simp only [List.getElem?_zipIdx, Option.map_eq_some_iff, Prod.mk.injEq, Nat.zero_add] at hplace
  obtain ⟨_, hi, rfl, rfl⟩ := hplace
  have htake : items.take before.length = before.map Prod.fst := by
    rw [← List.zipIdx_map_fst 0 items, ← List.map_take, hsplit, List.take_left]
  refine ⟨before.length, _, cause, hi, fun other ho => ?_, rfl, hbuild⟩
  rw [htake] at ho
  obtain ⟨pair, hp, rfl⟩ := List.mem_map.1 ho
  obtain ⟨s, hs⟩ := hbefore pair hp
  exact ⟨s, entry_eq_ok_iff.1 hs⟩

/-- A file is read as its entries are. -/
theorem ofValue_map (name : String) (table : Validator.Table) (fields : Entries) :
    ofValue (.map fields) name table = .error (.definition (.schemasNotList name)) ∨
      ∃ set : SchemaSet, ofValue (.map fields) name table =
        (entries name table (entriesOf (.map fields))).map ({ set with schemas := · }) := by
  cases h : SchemaSet.items name
      (((Entries.follow [.map fields] fields).field? "schemas").getD .null) with
  | error e =>
    left
    obtain rfl : e = .schemasNotList name := by
      unfold SchemaSet.items at h
      split at h
      · split at h <;> cases h
        rfl
      · cases h
    simp only [ofValue, h]
    rfl
  | ok items =>
    right
    have hmap {α β : Type} (x : Except Failure α) (f : α → β) :
        (x >>= fun a => pure (f a)) = x.map f := by
      cases x <;> rfl
    refine ⟨{
      name := ((Entries.follow [.map fields] fields).field? "name").getD (.str name)
      description := ((Entries.follow [.map fields] fields).field? "description").getD (.str "")
      metadata := ((Entries.follow [.map fields] fields).field? "metadata").getD (.map []) }, ?_⟩
    simp only [ofValue, h, entriesOf, ← items_eq_itemsOf h]
    exact hmap (entries name table _) _

end Entries

end SchemaSet

end PathPolicy
