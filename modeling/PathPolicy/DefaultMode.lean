import PathPolicy.Value

/-! What holds for paths without a schema: everything is allowed, or nothing is. -/

namespace PathPolicy

inductive DefaultMode where
  | permissive
  | strict
  deriving Repr, DecidableEq

namespace DefaultMode

def all : List DefaultMode := [permissive, strict]

def word : DefaultMode → String
  | permissive => "permissive"
  | strict => "strict"

def words : List String := all.map word

/-- The word exactly as it is written. -/
def ofValue? (v : Value) : Option DefaultMode := all.find? fun m => v.same (.str m.word)

end DefaultMode

end PathPolicy
