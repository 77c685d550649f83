import PathPolicy.Schema
import PathPolicy.Selector.Given
import PathPolicy.Validator.Named

/-! Schemas built setting by setting. What was built does not change with later
settings, and only the documentation has no default. -/

namespace PathPolicy.Schema

variable [Host]

/-- One setting of a builder. -/
inductive Setting where
  | name (v : Value)
  | documentation (v : Value)
  | validator (c : Validator.Candidate)
  | allowance (field : AllowanceField) (given : Allowance.Given)
  | canBeDeleted (v : Value)
  | metadata (more : Fields)

structure Builder where
  selector : Selector
  name : Value := .str ""
  documentation : Value := .null
  validator : Validator := .acceptAll
  ephemeral : Allowance := .can
  sequential : Allowance := .can
  watched : Allowance := .can
  canBeDeleted : Value := .bool true
  metadata : Fields := []

namespace Builder

/-- Exactly one of a path and a pattern is given. -/
def start (path : Value) (pattern : Option PathPattern.Given) : Except Failure Builder :=
  (Selector.choose path pattern).map ({ selector := · })

def setAllowance (b : Builder) (field : AllowanceField) (a : Allowance) : Builder :=
  match field with
  | .ephemeral => { b with ephemeral := a }
  | .sequential => { b with sequential := a }
  | .watched => { b with watched := a }

/-- A setting that fails leaves the builder as it was. -/
def set (b : Builder) (setting : Setting) : Except Failure Builder :=
  match setting with
  | .name v => .ok { b with name := v }
  | .documentation v => .ok { b with documentation := v }
  | .validator c =>
    (Validator.ofCandidate c).map ({ b with validator := · })
  | .allowance field given =>
    given.parse.map (b.setAllowance field ·)
  | .canBeDeleted v => .ok { b with canBeDeleted := v }
  | .metadata more =>
    if more.any (·.1 = "self") then .error (.fault .reservedName)
    else .ok { b with metadata := b.metadata.update more }

def setAll (b : Builder) (settings : List Setting) : Except Failure Builder :=
  settings.foldlM set b

def draft (b : Builder) : Draft where
  selector := .selector b.selector
  documentation := b.documentation
  validator := some b.validator
  ephemeral := .allowance b.ephemeral
  sequential := .allowance b.sequential
  watched := .allowance b.watched
  canBeDeleted := b.canBeDeleted
  name := b.name
  metadata := b.metadata

def build (b : Builder) : Except DefinitionError Schema :=
  if b.documentation.isNull then .error (.missingDocumentation b.selector.raw)
  else b.draft.build

end Builder

end PathPolicy.Schema
