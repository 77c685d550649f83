import PathPolicy.Config

/-! What is wrong or misleading in a configuration. -/

namespace PathPolicy

open Files

inductive Config.Issue where
  | unknownMode (mode : Value)
  | missingDirectory (index : Nat) (path : String)
  | setsWithoutPaths

namespace Config

namespace Issue

/-- An error keeps the configuration from being used. -/
def isError : Issue → Bool
  | unknownMode _ => true
  | _ => false

def level (i : Issue) : String := if i.isError then "error" else "warn"

/-- The part of the configuration that the issue is about. -/
def path : Issue → String
  | unknownMode _ => "default_mode"
  | missingDirectory index _ => "schema_paths[" ++ toString index ++ "]"
  | setsWithoutPaths => "schema_sets"

def message : Issue → String
  | unknownMode mode => "unknown default_mode " ++ mode.display
  | missingDirectory _ path => "directory " ++ Text.quote path ++ " does not exist"
  | setsWithoutPaths => "schema_sets has no effect when schema_paths is empty"

def hint : Issue → String
  | unknownMode _ => "Use one of: " ++ commaSeparated DefaultMode.words
  | missingDirectory _ _ => "Schema sets in this directory will not be loaded"
  | setsWithoutPaths => "Add the directories holding the schema set files to schema_paths"

def text (i : Issue) : String :=
  "[" ++ i.level ++ "] [" ++ i.path ++ "] " ++ i.message ++ "\n   Hint: " ++ i.hint

end Issue

/-- A mode that is not known is shown in the issue, if it can be written. -/
def modeIssues [Host] (c : Config) : Except Fault (List Issue) :=
  if (DefaultMode.ofValue? c.defaultMode).isSome then .ok []
  else
    match c.defaultMode.unwritable? with
    | some f => .error f
    | none => .ok [.unknownMode c.defaultMode]

def pathIssue (d : Disk) (index : Nat) (path : String) : Except Fault (List Issue) := do
  if ← d.isDirectoryAt (← d.expandHome (.ofText path)) then return []
  return [.missingDirectory index path]

def pathIssues (d : Disk) (c : Config) : Except Fault (List Issue) := do
  return (← c.schemaPaths.zipIdx.mapM fun p => pathIssue d p.2 p.1).flatten

def setIssues (c : Config) : List Issue :=
  if !c.schemaSets.isEmpty && c.schemaPaths.isEmpty then [.setsWithoutPaths] else []

def issues [Host] (d : Disk) (c : Config) : Except Fault (List Issue) := do
  return (← c.modeIssues) ++ (← c.pathIssues d) ++ c.setIssues

end Config

end PathPolicy
