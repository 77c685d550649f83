import PathPolicy.Schema
import PathPolicy.Error.Code
import PathPolicy.Error.Failure

/-! Requests are checked against a schema, and a request that contradicts it is a
violation. -/

namespace PathPolicy

/-- Why a request is refused. -/
inductive Reason where
  | cannotBeDeleted
  | mustBeWatched
  | cannotBeWatched
  | cannotBeEphemeral
  | mustBeEphemeral
  | cannotBeSequential
  | mustBeSequential
  | dataNotValid
  deriving Repr, DecidableEq

namespace Reason

def word : Reason → String
  | cannotBeDeleted => "cannot be deleted"
  | mustBeWatched => "must be watched"
  | cannotBeWatched => "cannot be watched"
  | cannotBeEphemeral => "cannot be ephemeral"
  | mustBeEphemeral => "must be ephemeral"
  | cannotBeSequential => "cannot be sequential"
  | mustBeSequential => "must be sequential"
  | dataNotValid => "data is not valid"

def all : List Reason :=
  [cannotBeDeleted, mustBeWatched, cannotBeWatched, cannotBeEphemeral, mustBeEphemeral,
    cannotBeSequential, mustBeSequential, dataNotValid]

end Reason

variable [Host]

structure Violation where
  schema : Schema
  reason : Reason

def ErrorReport.violation (schema : Schema) (reason : String) : ErrorReport where
  kind := .violation
  code := .schemaViolation
  message := .str (Fault.violationMessage schema.path reason)
  details := Fields.toValue
    [("path", .str schema.path), ("schema", schema.name), ("reason", .str reason)]

def Violation.report (v : Violation) : ErrorReport := .violation v.schema v.reason.word

/-- How a check ends that does not succeed. -/
inductive CheckError where
  | violation (v : Violation)
  | failure (f : Failure)

/-- The reason and the name of the schema, if a request was refused: by the check, or by
a schema that a predicate asked itself. -/
def CheckError.refusal? : CheckError → Option (String × Value)
  | violation v => some (v.reason.word, v.schema.name)
  | failure (.fault (.predicate (.violation _ name reason))) => some (reason, name)
  | failure _ => none

instance : MonadLift (Except Violation) (Except CheckError) :=
  ⟨Except.mapError CheckError.violation⟩

instance : MonadLift (Except Failure) (Except CheckError) := ⟨Except.mapError CheckError.failure⟩

namespace Schema

def checkDeletion (s : Schema) : Except Violation Unit :=
  if s.canBeDeleted then .ok () else .error ⟨s, .cannotBeDeleted⟩

/-- An allowance against a property that a node has or lacks. -/
def checkAllowance (s : Schema) (a : Allowance) (cannot must : Reason) (has : Bool) :
    Except Violation Unit :=
  if a.permits has then .ok () else .error ⟨s, if has then cannot else must⟩

def checkWatch (s : Schema) (isWatching : Bool) : Except Violation Unit :=
  s.checkAllowance s.watched .cannotBeWatched .mustBeWatched isWatching

def checkData (s : Schema) (data : Content) : Except CheckError Unit :=
  match s.validator.accepts data with
  | .ok true => .ok ()
  | .ok false => .error (.violation ⟨s, .dataNotValid⟩)
  | .error f => .error (.failure (.fault f))

/-- The flags before the data; data is not looked at for a node whose flags are
refused. -/
def checkCreate (s : Schema) (isEphemeral isSequential : Bool) (data : Content) :
    Except CheckError Unit := do
  s.checkAllowance s.ephemeral .cannotBeEphemeral .mustBeEphemeral isEphemeral
  s.checkAllowance s.sequential .cannotBeSequential .mustBeSequential isSequential
  s.checkData data

def checkCreateMode (s : Schema) (mode : CreateMode) (data : Content) : Except CheckError Unit :=
  s.checkCreate mode.isEphemeral mode.isSequential data

end Schema

end PathPolicy
