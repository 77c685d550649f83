import PathPolicy.Error.Fault
import PathPolicy.Regex.Program

/-! What the library takes from the place it runs in: the characters that have names, the room
that is left on the stack, and the reader of documents. All of it is open; what is said of the
library holds for every host, and two calls that leave different room are calls on two hosts. -/

namespace PathPolicy

/-- Where a text is compiled: by a pattern, or by a caller who gives the expression to one. -/
inductive Compiler where
  | pattern
  | caller
  deriving Repr, DecidableEq

/-- Why there is no value for the bytes of a document: its reader says so in an error of its
own, or fails by a fault. -/
inductive Unread where
  | malformed (reason : String)
  | fault (f : Fault)

/-- `jsonRoom` counts the arrays and objects that may be open at once, and `displayRoom` the
values inside one another that can be written; there is always room for a text, and for the
pattern of the schemas of last resort. -/
class Host extends Regex.CharacterNames where
  hasRoom : Compiler → String → Regex.Flags → Bool
  hasRoom_any : hasRoom .pattern ".*" 0 = true
  jsonRoom : Nat
  displayRoom : Nat
  displayRoom_pos : 0 < displayRoom
  readDocument : List UInt8 → Except Unread Value

namespace Host

variable [Host] {place : Compiler} {source : String} {flags : Regex.Flags} {program : Regex.Program}

/-- Compiles a text where there is room for that. -/
def compile (place : Compiler) (source : String) (flags : Regex.Flags) :
    Except Regex.Fault Regex.Program :=
  if hasRoom place source flags then Regex.compile source flags else .error .tooDeep

theorem compile_of_room (h : hasRoom place source flags = true) :
    compile place source flags = Regex.compile source flags := if_pos h

theorem compile_eq_ok_iff : compile place source flags = .ok program ↔
    hasRoom place source flags = true ∧ Regex.compile source flags = .ok program := by
  unfold compile
  split <;> simp_all

end Host

end PathPolicy
