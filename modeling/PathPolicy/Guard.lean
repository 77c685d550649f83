import PathPolicy.Registry

/-! The guard checks a request against the schema that governs its path, before the
request is sent. A violation is announced; the answer to a request that passes is the
schema that was applied. -/

namespace PathPolicy.Guard

variable [Host]

/-- A check that fails with a violation, whoever found it, is announced as the rejection
of a request. -/
def announcing (operation : Operation) (path : Value) (result : Except CheckError Unit) :
    Logged CheckError Unit :=
  match result with
  | .ok () => ⟨.ok (), []⟩
  | .error e =>
    ⟨.error e, (e.refusal?.map fun r => Notice.rejected operation path r.1 r.2).toList⟩

def schemaFor (r : Registry) (path : Value) : Logged CheckError Schema :=
  match r.lookup path with
  | .ok s => ⟨.ok s, [.selected s.name path]⟩
  | .error f => ⟨.error (.failure (.fault f)), []⟩

/-- Runs a check on the schema for a path. -/
def check (r : Registry) (operation : Operation) (path : Value)
    (test : Schema → Except CheckError Unit) : Logged CheckError Schema := do
  let s ← schemaFor r path
  announcing operation path (test s)
  return s

/-- The mode is read before a schema is selected; `sequential` counts only with a mode
that is a boolean. -/
def checkCreate (r : Registry) (path : Value) (mode : CreateMode.Given) (data : Content)
    (sequential : Bool) : Logged CheckError Schema :=
  match mode.parse sequential with
  | .error e => ⟨.error (.failure e), []⟩
  | .ok mode => check r .create path fun s => s.checkCreateMode mode data

def checkDelete (r : Registry) (path : Value) : Logged CheckError Schema :=
  check r .delete path fun s => s.checkDeletion.mapError .violation

def checkWatch (r : Registry) (path : Value) (isWatching : Bool) : Logged CheckError Schema :=
  check r .watch path fun s => (s.checkWatch isWatching).mapError .violation

def checkSetData (r : Registry) (path : Value) (data : Content) : Logged CheckError Schema :=
  check r .setData path fun s => s.checkData data

end PathPolicy.Guard
