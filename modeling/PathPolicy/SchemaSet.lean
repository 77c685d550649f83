import PathPolicy.Schema.Entry

/-! Named collections of schemas, one to a policy file. -/

namespace PathPolicy

variable [Host]

structure SchemaSet where
  name : Value
  description : Value := .str ""
  schemas : List Schema := []
  metadata : Value := .map []

namespace SchemaSet

/-- The first schema of that name. -/
def find? (s : SchemaSet) (name : Value) : Option Schema := s.schemas.find? (·.name.same name)

/-- An entry that is refused is reported with the set and its place; a fault is not. -/
def entry (set : String) (table : Validator.Table) (index : Nat) (v : Value) :
    Except Failure Schema :=
  match Schema.Entry.build v table with
  | .error (.definition e) => .error (.definition (.inEntry set index e))
  | result => result

def entries (set : String) (table : Validator.Table) (items : List Value) :
    Except Failure (List Schema) :=
  items.zipIdx.mapM fun item => entry set table item.2 item.1

/-- The items under the key of the schemas; whatever is false stands for none. -/
def items (set : String) (v : Value) : Except DefinitionError (List Value) :=
  if v.truthy then
    match v with
    | .list items => .ok items
    | _ => .error (.schemasNotList set)
  else .ok []

/-- An item for itself: it may be one of the collections around it, and so may what its keys
have. -/
def item (around : List Value) (v : Value) : Value :=
  match v.follow around with
  | .map fields => .map (Entries.follow (.map fields :: around) fields)
  | v => v

/-- Reads a decoded policy file, which may be empty. The default name stands for a
name that is missing and in reports. -/
def ofValue (v : Value) (defaultName : String) (table : Validator.Table) :
    Except Failure SchemaSet :=
  match v with
  | .null => .ok { name := .str defaultName }
  | .map fields => do
    let fields := Entries.follow [v] fields
    let items ← items defaultName ((Entries.field? fields "schemas").getD .null)
    let schemas ← entries defaultName table (items.map (item [.list items, v]))
    return {
      name := (Entries.field? fields "name").getD (.str defaultName)
      description := (Entries.field? fields "description").getD (.str "")
      schemas := schemas
      metadata := (Entries.field? fields "metadata").getD (.map []) }
  | _ => .error (.definition (.setNotMapping defaultName))

end SchemaSet

end PathPolicy
