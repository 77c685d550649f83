import PathPolicy.Error.Refusal
import PathPolicy.Text.Case

/-! How a node is created: for good or for the session, with or without a number that
is counted up. -/

namespace PathPolicy

inductive CreateMode where
  | persistent
  | persistentSequential
  | ephemeral
  | ephemeralSequential
  deriving Repr, DecidableEq

namespace CreateMode

def all : List CreateMode := [persistent, persistentSequential, ephemeral, ephemeralSequential]

def isEphemeral : CreateMode → Bool
  | ephemeral => true
  | ephemeralSequential => true
  | _ => false

def isSequential : CreateMode → Bool
  | persistentSequential => true
  | ephemeralSequential => true
  | _ => false

def ofFlags (isEphemeral isSequential : Bool) : CreateMode :=
  match isEphemeral, isSequential with
  | true, true => ephemeralSequential
  | true, false => ephemeral
  | false, true => persistentSequential
  | false, false => persistent

def word : CreateMode → String
  | persistent => "persistent"
  | persistentSequential => "persistent_sequential"
  | ephemeral => "ephemeral"
  | ephemeralSequential => "ephemeral_sequential"

def name : CreateMode → String
  | persistent => "PERSISTENT"
  | persistentSequential => "PERSISTENT_SEQUENTIAL"
  | ephemeral => "EPHEMERAL"
  | ephemeralSequential => "EPHEMERAL_SEQUENTIAL"

/-- White space around a word and the case of its letters do not matter. -/
def ofText? (s : String) : Option CreateMode :=
  let text := Text.lower (Text.trim s)
  all.find? (·.word = text)

/-- As given by a caller: a mode, or a value to be read as one. -/
inductive Given where
  | mode (m : CreateMode)
  | value (v : Value)

def unknown (v : Value) : DefinitionError := .unknownCreateMode v (all.map word)

/-- A boolean says whether the node is ephemeral, and only then `sequential` is read. -/
def Given.parse [Host] (given : Given) (sequential : Bool) : Except Failure CreateMode :=
  match given with
  | .mode m => .ok m
  | .value (.bool b) => .ok (ofFlags b sequential)
  | .value (.str s) =>
    match ofText? s with
    | some m => .ok m
    | none => .error (.refusing (.str s) (unknown (.str s)))
  | .value v => .error (.refusing v (unknown v))

end CreateMode

end PathPolicy
