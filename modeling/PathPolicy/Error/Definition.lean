import PathPolicy.Error.Code
import PathPolicy.DefaultMode
import PathPolicy.Regex.Fault

/-! What can be wrong with a definition: a selector, a schema, a schema set or a
configuration. -/

namespace PathPolicy

/-- Texts that must not be blank. -/
inductive TextRole where
  | path
  | pattern
  deriving Repr, DecidableEq

def TextRole.word : TextRole → String
  | path => "path"
  | pattern => "path pattern"

/-- Settings of a schema that are allowances. -/
inductive AllowanceField where
  | ephemeral
  | sequential
  | watched
  deriving Repr, DecidableEq

namespace AllowanceField

def word : AllowanceField → String
  | ephemeral => "ephemeral"
  | sequential => "sequential"
  | watched => "watched"

/-- In the order in which they are read and checked. -/
def all : List AllowanceField := [ephemeral, sequential, watched]

end AllowanceField

inductive DefinitionError where
  | unknownAllowance (value : Value)
  | blankText (role : TextRole) (value : Value)
  | invalidPattern (source : String) (reason : Regex.Malformed)
  | notAValidator (value : Value)
  | validatorNameNotText (value : Value)
  | unknownValidator (name : String) (available : List String)
  | selectorChoice (path pattern : Value)
  | notASelector (value : Value)
  | missingDocumentation (path : String)
  | blankDocumentation (path : String)
  | missingValidator (path : String)
  | notAnAllowance (field : AllowanceField) (value : Value) (path : String)
  | unknownDefaultMode (value : Value)
  | unknownCreateMode (value : Value) (available : List String)
  | setNotMapping (set : String)
  | schemasNotList (set : String)
  | inEntry (set : String) (index : Nat) (cause : DefinitionError)
  | entryNotMapping
  | unknownKeys (keys : List String)
  | notBoolean (key : String) (value : Value)
  | metadataNotMapping
  | flagsNotIntegerOrText (value : Value)
  | unknownFlag (letter : Char) (flags : String)
  | unreadableSet (file : String) (reason : String)
  | setNotFound (name : String)
  | notNames (key : String) (value : Value)
  | badConfiguration (issue : String) (path : String)

namespace DefinitionError

def message : DefinitionError → String
  | unknownAllowance v =>
    "Unknown allowance: " ++ v.display ++ " (expected one of: can, must, cannot)"
  | blankText role _ => role.word ++ " cannot be empty"
  | invalidPattern source reason =>
    "Invalid path pattern " ++ Text.quote source ++ ": " ++ reason.message
  | notAValidator v => "Not a data validator: " ++ v.display
  | validatorNameNotText v => "Data validator name must be a string, got " ++ v.display
  | unknownValidator name _ => "Unknown data validator: " ++ Text.quote name
  | selectorChoice _ _ => "exactly one of path or pattern must be given"
  | notASelector _ => "a schema needs exactly one of an exact path or a path pattern"
  | missingDocumentation _ => "documentation cannot be None"
  | blankDocumentation _ => "documentation cannot be empty"
  | missingValidator _ => "data_validator cannot be None"
  | notAnAllowance field v _ => field.word ++ " must be an Allowance, got " ++ v.display
  | unknownDefaultMode v =>
    "Unknown default mode: " ++ v.display ++ " (expected one of: " ++
      commaSeparated DefaultMode.words ++ ")"
  | unknownCreateMode v _ => "Unknown create mode: " ++ v.display
  | setNotMapping set => "Schema set " ++ Text.quote set ++ " must be a mapping"
  | schemasNotList set => "Schema set " ++ Text.quote set ++ ": 'schemas' must be a list"
  | inEntry set index cause =>
    "Schema set " ++ Text.quote set ++ ", entry " ++ toString index ++ ": " ++ cause.message
  | entryNotMapping => "schema entry must be a mapping"
  | unknownKeys keys => "unknown keys: " ++ commaSeparated keys
  | notBoolean key v => key ++ " must be true or false, got " ++ v.display
  | metadataNotMapping => "metadata must be a mapping with string keys"
  | flagsNotIntegerOrText v => "flags must be an int or a string of letters, got " ++ v.display
  | unknownFlag letter _ =>
    "unknown regex flag " ++ Text.quote (String.singleton letter) ++ " (expected any of: imsx)"
  | unreadableSet file reason => "Cannot parse schema set file " ++ file ++ ": " ++ reason
  | setNotFound name => "Schema set not found: " ++ Text.quote name
  | notNames key v => key ++ " must be a string or a list of strings, got " ++ v.display
  | badConfiguration issue _ => "Invalid configuration: " ++ issue

def code : DefinitionError → ErrorCode
  | notASelector _ => .invalidSchema
  | missingDocumentation _ => .invalidSchema
  | blankDocumentation _ => .invalidSchema
  | missingValidator _ => .invalidSchema
  | notAnAllowance _ _ _ => .invalidSchema
  | entryNotMapping => .invalidSchema
  | unknownKeys _ => .invalidSchema
  | setNotMapping _ => .invalidSchemaSet
  | schemasNotList _ => .invalidSchemaSet
  | inEntry _ _ _ => .invalidSchemaSet
  | unreadableSet _ _ => .invalidSchemaSet
  | setNotFound _ => .invalidSchemaSet
  | _ => .invalidArgument

def texts (items : List String) : Value := .list (items.map .str)

def details : DefinitionError → Fields
  | unknownAllowance v => [("value", .str v.text)]
  | blankText _ v => [("value", .str v.display)]
  | invalidPattern source _ => [("pattern", .str source)]
  | unknownValidator _ available => [("available", texts available)]
  | selectorChoice path pattern => [("path", path), ("pattern", pattern)]
  | notASelector v => [("selector", .str v.display)]
  | missingDocumentation path => [("path", .str path)]
  | blankDocumentation path => [("path", .str path)]
  | missingValidator path => [("path", .str path)]
  | notAnAllowance _ _ path => [("path", .str path)]
  | unknownCreateMode _ available => [("available", texts available)]
  | inEntry _ index cause => Fields.insert cause.details "entry" (.int index)
  | unknownKeys keys => [("keys", texts keys)]
  | notBoolean key _ => [("key", .str key)]
  | unknownFlag _ flags => [("flags", .str flags)]
  | unreadableSet file _ => [("file", .str file)]
  | setNotFound name => [("name", .str name)]
  | notNames key _ => [("key", .str key)]
  | badConfiguration _ path => [("path", .str path)]
  | _ => []

/-- Without the entries around it. -/
def innermost : DefinitionError → DefinitionError
  | inEntry _ _ cause => innermost cause
  | e => e

def report (e : DefinitionError) : ErrorReport :=
  ⟨.definition, e.code, .str e.message, e.details.toValue⟩

end DefinitionError

end PathPolicy
