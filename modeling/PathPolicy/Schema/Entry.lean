import PathPolicy.Schema.Builder
import PathPolicy.Value.Order

/-! One schema of a policy file. An entry is a mapping with known keys only; what it
leaves out has the defaults of the builder. -/

namespace PathPolicy.Schema.Entry

variable [Host]

def knownKeys : List String :=
  ["name", "path", "is_regex", "flags", "documentation", "data_validator", "ephemeral",
    "sequential", "watched", "can_be_deleted", "metadata"]

/-- Letters that stand for flags in a policy file. -/
def flagOfLetter? (c : Char) : Option Regex.Flag :=
  match c with
  | 'i' => some .ignoreCase
  | 'm' => some .multiline
  | 's' => some .dotAll
  | 'x' => some .verbose
  | _ => none

/-- Letters in any case; the first that is no flag is named. -/
def flagsOfText (s : String) : Except DefinitionError Regex.Flags :=
  (Text.lower s).toList.foldlM
    (fun w c =>
      match flagOfLetter? c with
      | some f => .ok (Regex.Flags.add w f)
      | none => .error (.unknownFlag c s))
    0

def flags (v : Value) : Except Failure Regex.Flags :=
  match v with
  | .int n => .ok n
  | .str s => (flagsOfText s).mapError .definition
  | v => .error (.refusing v (.flagsNotIntegerOrText v))

/-- Numbers and words are no booleans. -/
def boolean (key : String) (v : Value) : Except Failure Bool :=
  match v with
  | .bool b => .ok b
  | v => .error (.refusing v (.notBoolean key v))

/-- The entries as named values, if all keys are texts. -/
def named? : Entries → Option Fields
  | [] => some []
  | (.str k, v) :: rest => (named? rest).map ((k, v) :: ·)
  | _ :: _ => none

def metadata (v : Value) : Except DefinitionError Fields :=
  match v with
  | .map entries =>
    match named? entries with
    | some fields => .ok fields
    | none => .error .metadataNotMapping
  | _ => .error .metadataNotMapping

/-- Keys that are not known, if there are any. Texts are reported in order; other keys
cannot be reported. -/
def unknownKeys (keys : List Value) : Except Failure Unit :=
  let unknown := keys.filter fun k => !knownKeys.any fun word => k.same (.str word)
  match unknown with
  | [] => .ok ()
  | first :: rest =>
    if unknown.all Value.isText then
      .error (.definition (.unknownKeys ((unknown.map Value.text).mergeSort (· ≤ ·))))
    else
      match rest.find? fun k => (Value.less? k first).isNone with
      | none => .error (.fault (.notJoinable 0 (Value.least first rest).typeName))
      | some other =>
        if first.isText then .error (.fault (.notComparable first.typeName other.typeName))
        else .error (.fault (.notComparable other.typeName first.typeName))

/-- The selector is a pattern only if the entry says so, and flags are read only then. -/
def start (entries : Entries) : Except Failure Builder := do
  let path := (entries.field? "path").getD .null
  let isPattern ← boolean "is_regex" ((entries.field? "is_regex").getD (.bool false))
  if isPattern then
    let flags ← flags ((entries.field? "flags").getD (.int 0))
    let pattern ← PathPattern.ofValue path flags
    Builder.start .null (some (.pattern pattern))
  else Builder.start path none

/-- The name of a schema is any value as text. -/
def nameSetting (v : Value) : Except Failure Setting :=
  match v.unwritable? with
  | some f => .error (.fault f)
  | none => .ok (.name (.str v.text))

def validatorSetting (table : Validator.Table) (v : Value) : Except Failure Setting :=
  (Validator.resolve v table).map .validator

def allowanceSetting (field : AllowanceField) (v : Value) : Except Failure Setting :=
  .ok (.allowance field (.value v))

def canBeDeletedSetting (v : Value) : Except Failure Setting :=
  (boolean "can_be_deleted" v).map fun b => .canBeDeleted (.bool b)

def metadataSetting (v : Value) : Except Failure Setting :=
  ((metadata v).map .metadata).mapError .definition

def documentationSetting (v : Value) : Except Failure Setting := .ok (.documentation v)

/-- Makes a setting of a value, if there is one. -/
def setFrom (read : Value → Except Failure Setting) (v : Option Value) (b : Builder) :
    Except Failure Builder :=
  match v with
  | none => .ok b
  | some v => do b.set (← read v)

/-- The settings in the order in which they are looked at. An empty name or mapping is
as good as none. -/
def settings (entries : Entries) (table : Validator.Table) (b : Builder) :
    Except Failure Builder := do
  let b ← setFrom (validatorSetting table) ((entries.field? "data_validator").getD .null) b
  let b ← AllowanceField.all.foldlM
    (fun b field => setFrom (allowanceSetting field) (entries.field? field.word) b) b
  let b ← setFrom canBeDeletedSetting (entries.field? "can_be_deleted") b
  let b ← setFrom nameSetting ((entries.field? "name").filter Value.truthy) b
  let b ← setFrom metadataSetting ((entries.field? "metadata").filter Value.truthy) b
  setFrom documentationSetting (entries.field? "documentation") b

def build (entry : Value) (table : Validator.Table) : Except Failure Schema :=
  match entry with
  | .map entries => do
    unknownKeys (entries.map (·.1))
    let b ← settings entries table (← start entries)
    b.build
  | _ => .error (.definition .entryNotMapping)

end PathPolicy.Schema.Entry
