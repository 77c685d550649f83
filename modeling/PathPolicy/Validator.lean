import PathPolicy.Host
import PathPolicy.Json.Acceptor
import PathPolicy.Value.Display

/-! Validators decide whether the content of a node is acceptable. -/

namespace PathPolicy

/-- The content of a node, if there is any. -/
abbrev Content := Option (List UInt8)

/-- A caller's own test. Its answer counts by its truth, and it may fail. -/
structure Predicate where
  label : Option String
  judge : Content → Except Fault Value

/-- `foreign` is something that cannot test anything, with the short and the full name
of its type. -/
inductive Validator where
  | acceptAll
  | rejectAll
  | json (allowEmpty : Bool)
  | predicate (test : Predicate) (name : String)
  | foreign (typeName fullName : String)

namespace Validator

/-- As given by a caller. -/
inductive Candidate where
  | validator (v : Validator)
  | predicate (test : Predicate)
  | value (v : Value)

def label (test : Predicate) (name fallback : String) : String :=
  if name.isEmpty then test.label.getD fallback else name

/-- The name under which listings show the validator. -/
def name : Validator → String
  | acceptAll => "DefaultDataValidator"
  | rejectAll => "RejectAllDataValidator"
  | json _ => "JsonDataValidator"
  | predicate test name => label test name "CallableDataValidator"
  | foreign typeName _ => typeName

def kindName : Validator → String
  | predicate _ _ => "CallableDataValidator"
  | v => v.name

def display : Validator → String
  | json allowEmpty => "JsonDataValidator(allow_empty=" ++ (Value.bool allowEmpty).display ++ ")"
  | predicate test name => "CallableDataValidator(" ++ label test name "callable" ++ ")"
  | v => v.name ++ "()"

/-- Content that nests too deep to be read is a fault; any other that is no document
is not accepted. -/
def acceptsJson [Host] (allowEmpty : Bool) (content : Content) : Except Fault Bool :=
  match content.getD [] with
  | [] => .ok allowEmpty
  | bytes =>
    match Json.document Host.jsonRoom bytes with
    | .ok () => .ok true
    | .error .malformed => .ok false
    | .error .tooDeep => .error .tooDeep

def accepts [Host] (v : Validator) (content : Content) : Except Fault Bool :=
  match v with
  | acceptAll => .ok true
  | rejectAll => .ok false
  | json allowEmpty => acceptsJson allowEmpty content
  | predicate test _ => (test.judge content).map Value.truthy
  | foreign _ fullName => .error (.noAttribute fullName "is_valid")

end Validator

end PathPolicy
