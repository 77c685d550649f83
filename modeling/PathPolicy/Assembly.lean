import PathPolicy.Config.Issue
import PathPolicy.Host.Standard
import PathPolicy.Loader
import PathPolicy.Registry

/-! The standard way from a configuration to a registry. It is strict: an error in the
configuration, a set that is missing and a set that is malformed all end it. -/

namespace PathPolicy.Assembly

open Files

variable [Host]

/-- An error ends the work, and a warning leaves a notice. -/
def report (issue : Config.Issue) : Logged Failure Unit :=
  if issue.isError then ⟨.error (.definition (.badConfiguration issue.text issue.path)), []⟩
  else .tell [.configuration issue.text]

/-- The directories of a configuration, in order. -/
def directories (d : Disk) (c : Config) : Except Fault Loader := do
  return .composite (← c.schemaPaths.mapM fun p => return .directory (← DirectoryLoader.make d p []))

/-- The named sets, or all that there are. -/
def setNames (d : Disk) (c : Config) (loader : Loader) : Except Fault (List String) :=
  if c.schemaSets.isEmpty then loader.list d else .ok c.schemaSets

/-- Loads a set and registers its schemas, which is told of them and of the set. -/
def addSet (d : Disk) (state : Registry × Loader) (name : String) :
    Logged Failure (Registry × Loader) := do
  let (found, loader) ← state.2.load d name
  match found with
  | none => throw (.definition (.setNotFound name))
  | some set =>
    Logged.announce (state.1.setAnnouncements set)
    return (state.1.registerSet set, loader)

/-- Without a configuration the usual one is loaded, and without a loader the sets come
from the directories of the configuration. -/
def registry (d : Disk) (config : Option Config) (loader : Option Loader) :
    Logged Failure Registry := do
  let c ← match config with
    | some c => pure c
    | none => Config.load d none
  for issue in ← lift (c.issues d) do report issue
  let empty ← Registry.make none c.defaultMode
  let loader ← match loader with
    | some l => pure l
    | none => lift (directories d c)
  let names ← lift (setNames d c loader)
  return (← names.foldlM (addSet d) (empty, loader)).1
where
  lift {α : Type} (x : Except Fault α) : Logged Failure α := ⟨x.mapError .fault, []⟩

end PathPolicy.Assembly
