import PathPolicy.Value.Display
import PathPolicy.Text.Blank

/-! Error codes, and the record that any error of this library is reported as. -/

namespace PathPolicy

inductive ErrorCode where
  | unknown
  | invalidArgument
  | invalidSchema
  | invalidSchemaSet
  | schemaViolation
  deriving Repr, DecidableEq

namespace ErrorCode

def word : ErrorCode → String
  | unknown => "UNKNOWN"
  | invalidArgument => "INVALID_ARGUMENT"
  | invalidSchema => "INVALID_SCHEMA"
  | invalidSchemaSet => "INVALID_SCHEMA_SET"
  | schemaViolation => "SCHEMA_VIOLATION"

/-- The codes of errors in a definition, which never reaches a registry. -/
def definitions : List ErrorCode := [invalidArgument, invalidSchema, invalidSchemaSet]

/-- Any value as a code: a known word with white space around it, else unknown. -/
def ofValue (v : Value) : ErrorCode :=
  let word := Text.trim (if v.truthy then v.text else ErrorCode.unknown.word)
  ((schemaViolation :: definitions).find? (·.word = word)).getD unknown

end ErrorCode

/-- What kind of error a report is about. -/
inductive ErrorKind where
  | general
  | definition
  | violation
  deriving Repr, DecidableEq

def ErrorKind.word : ErrorKind → String
  | general => "SchemaGuardError"
  | definition => "SchemaDefinitionError"
  | violation => "SchemaViolation"

structure ErrorReport where
  kind : ErrorKind
  code : ErrorCode
  message : Value
  details : Value

namespace ErrorReport

def general (message : Value) (code : Value := .str ErrorCode.unknown.word)
    (details : Value := .map []) : ErrorReport :=
  ⟨.general, .ofValue code, message, details⟩

/-- Details that are false are none. -/
def definition (message : Value) (code : Value := .str ErrorCode.invalidSchema.word)
    (details : Value := .map []) : ErrorReport :=
  ⟨.definition, .ofValue code, message, if details.truthy then details else .map []⟩

def text (r : ErrorReport) : String := "[" ++ r.code.word ++ "] " ++ r.message.text

def isViolation (r : ErrorReport) : Bool := r.code = .schemaViolation

def toFields (r : ErrorReport) : Fields :=
  [("type", .str r.kind.word), ("error_code", .str r.code.word), ("message", r.message),
    ("details", r.details)]

end ErrorReport

end PathPolicy
