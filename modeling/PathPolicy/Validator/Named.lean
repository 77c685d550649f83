import PathPolicy.Validator
import PathPolicy.Error.Refusal
import PathPolicy.Text.Case

/-! Validators by name. A table given by a caller is looked at before the validators
that are built in; names are looked up without white space around them and in lower
case. -/

namespace PathPolicy.Validator

/-- A bare test becomes a validator without a name. -/
def ofCandidate [Host] : Candidate → Except Failure Validator
  | .validator v => .ok v
  | .predicate test => .ok (.predicate test "")
  | .value v => .error (.refusing v (.notAValidator v))

/-- Anything at all, taken as it is. -/
def ofCandidateUnchecked : Candidate → Validator
  | .validator v => v
  | .predicate test =>
    if test.label.isSome then .foreign "function" "function"
    else .foreign "partial" "functools.partial"
  | .value v => .foreign v.typeName v.typeName

/-- Named validators; of equal names the last counts. -/
abbrev Table := List (String × Candidate)

def builtIn : Table :=
  [("default", .validator .acceptAll), ("json", .validator (.json true)),
    ("reject", .validator .rejectAll)]

namespace Table

/-- All names in lower case, after the built-in ones. -/
def complete (extra : Table) : Table := builtIn ++ extra.map fun e => (Text.lower e.1, e.2)

def find? (table : Table) (key : String) : Option Candidate :=
  (table.reverse.find? (·.1 = key)).map (·.2)

/-- Sorted, each name once. -/
def names (table : Table) : List String :=
  ((table.map (·.1)).mergeSort (fun a b => a ≤ b)).eraseReps

end Table

/-- The key of a name; no name and an empty one stand for the default. -/
def key (name : Option String) : String :=
  let text := name.getD ""
  Text.lower (Text.trim (if text.isEmpty then "default" else text))

def resolveText (name : Option String) (extra : Table) : Except DefinitionError Candidate :=
  match extra.complete.find? (key name) with
  | some c => .ok c
  | none => .error (.unknownValidator (name.getD "") extra.complete.names)

def resolve [Host] (name : Value) (extra : Table) : Except Failure Candidate :=
  match name with
  | .null => (resolveText none extra).mapError .definition
  | .str s => (resolveText (some s) extra).mapError .definition
  | v => .error (.refusing v (.validatorNameNotText v))

end PathPolicy.Validator
