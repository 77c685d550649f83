import PathPolicy.Selector
import PathPolicy.Validator
import PathPolicy.Allowance
import PathPolicy.CreateMode

/-! A schema is the policy for the paths of its selector. A draft holds what a caller
gives for one, unchecked; a schema is what passes the checks. -/

namespace PathPolicy

variable [Host]

/-- The name is shown in listings and need not be a text. -/
structure Schema where
  selector : Selector
  documentation : String
  documented : Text.isBlankText documentation = false
  validator : Validator
  ephemeral : Allowance
  sequential : Allowance
  watched : Allowance
  canBeDeleted : Bool
  name : Value
  metadata : Fields

namespace Selector

/-- As given by a caller: a selector, or a value that cannot be one. -/
inductive Given where
  | selector (s : Selector)
  | value (v : Value)

end Selector

structure Schema.Draft where
  selector : Selector.Given
  documentation : Value := .null
  validator : Option Validator := some .acceptAll
  ephemeral : Allowance.Given := .allowance .can
  sequential : Allowance.Given := .allowance .can
  watched : Allowance.Given := .allowance .can
  canBeDeleted : Value := .bool true
  name : Value := .str ""
  metadata : Fields := []

namespace Schema.Draft

def checkSelector : Selector.Given → Except DefinitionError Selector
  | .selector s => .ok s
  | .value v => .error (.notASelector v)

def checkDocumentation (v : Value) (path : String) :
    Except DefinitionError { s : String // Text.isBlankText s = false } :=
  match v with
  | .str s => if h : Text.isBlankText s = false then .ok ⟨s, h⟩ else .error (.blankDocumentation path)
  | _ => .error (.blankDocumentation path)

def checkValidator (v : Option Validator) (path : String) : Except DefinitionError Validator :=
  match v with
  | some v => .ok v
  | none => .error (.missingValidator path)

/-- Words are not read here. -/
def checkAllowance (field : AllowanceField) (given : Allowance.Given) (path : String) :
    Except DefinitionError Allowance :=
  match given with
  | .allowance a => .ok a
  | .value v => .error (.notAnAllowance field v path)

/-- The first failure counts. A schema without a name is named by its path. -/
def build (d : Draft) : Except DefinitionError Schema := do
  let selector ← checkSelector d.selector
  let path := selector.raw
  let documentation ← checkDocumentation d.documentation path
  let validator ← checkValidator d.validator path
  let ephemeral ← checkAllowance .ephemeral d.ephemeral path
  let sequential ← checkAllowance .sequential d.sequential path
  let watched ← checkAllowance .watched d.watched path
  return {
    selector, validator, ephemeral, sequential, watched
    documentation := documentation.1
    documented := documentation.2
    canBeDeleted := d.canBeDeleted.truthy
    name := if d.name.truthy then d.name else .str path
    metadata := d.metadata }

end Schema.Draft

namespace Schema

def path (s : Schema) : String := s.selector.raw

def isExact (s : Schema) : Bool := s.selector.isExact

def isMatch (s : Schema) (path : String) : Bool := s.selector.isMatch path

/-- Schemas for the same paths are the same entry of a registry. -/
def same (s t : Schema) : Bool := s.selector = t.selector

instance : BEq Schema := ⟨same⟩

instance : Hashable Schema := ⟨fun s => hash s.selector⟩

theorem beq_iff {s t : Schema} : s == t ↔ s.selector = t.selector := decide_eq_true_iff

instance : LawfulHashable Schema where
  hash_eq s t h := show hash s.selector = hash t.selector by rw [beq_iff.1 h]

def toFields (s : Schema) : Fields :=
  [("name", s.name), ("path", .str s.path), ("is_regex", .bool (!s.isExact)),
    ("documentation", .str s.documentation), ("data_validator", .str s.validator.name),
    ("ephemeral", .str s.ephemeral.word), ("sequential", .str s.sequential.word),
    ("watched", .str s.watched.word), ("can_be_deleted", .bool s.canBeDeleted),
    ("metadata", s.metadata.toValue)]

/-- What an operator reads in a listing. -/
def listing (s : Schema) : String :=
  "Name: " ++ s.name.text ++ "\nPath: " ++ s.path ++ "\nDocumentation: " ++ s.documentation ++
    "\nValidator: " ++ s.validator.name ++ "\nephemeral: " ++ s.ephemeral.name ++
    " | sequential: " ++ s.sequential.name ++ " | watched: " ++ s.watched.name ++
    " | canBeDeleted: " ++ (Value.bool s.canBeDeleted).text ++ "\n"

def display (s : Schema) : String :=
  "Schema(path=" ++ Text.quote s.path ++ ", exact=" ++ (Value.bool s.isExact).text ++
    ", ephemeral=" ++ s.ephemeral.name ++ ", sequential=" ++ s.sequential.name ++ ", watched=" ++
    s.watched.name ++ ", can_be_deleted=" ++ (Value.bool s.canBeDeleted).text ++ ")"

end Schema

end PathPolicy
