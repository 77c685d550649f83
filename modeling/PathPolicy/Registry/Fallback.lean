import PathPolicy.Schema
import PathPolicy.DefaultMode

/-! The schema of last resort. It applies to every path, and either allows everything
or fails closed. -/

namespace PathPolicy

namespace DefaultMode

variable [Host]

def parse (v : Value) : Except Failure DefaultMode :=
  match ofValue? v with
  | some m => .ok m
  | none => .error (.refusing v (.unknownDefaultMode v))

/-- The pattern of all paths without a line break. -/
def anyPath : PathPattern where
  source := ".*"
  flags := 0
  program := ⟨32, 0, .loop .greedy 0 none .any⟩
  notBlank := by rfl
  compiled := Host.compile_eq_ok_iff.2 ⟨Host.hasRoom_any, by rfl⟩

def schema : DefaultMode → Schema
  | permissive => {
      selector := .pattern anyPath
      documentation := "Default schema: no constraints"
      documented := by rfl
      validator := .acceptAll
      ephemeral := .can
      sequential := .can
      watched := .can
      canBeDeleted := true
      name := .str "default"
      metadata := [] }
  | strict => {
      selector := .pattern anyPath
      documentation := "Default schema: nodes without a registered schema are not writable"
      documented := by rfl
      validator := .rejectAll
      ephemeral := .can
      sequential := .can
      watched := .cannot
      canBeDeleted := false
      name := .str "default"
      metadata := [] }

end DefaultMode

end PathPolicy
