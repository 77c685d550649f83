import PathPolicy.Error.Failure
import PathPolicy.Host
import PathPolicy.Number.Reading
import PathPolicy.Number.Shortest

/-! Reports that show the value that is refused. An integer of too many digits and a
value that is nested too deep have no text, and then the report itself stops at a fault. -/

namespace PathPolicy

/-- What is written inside a moment: its offset, and the time that an offset other than
zero is. -/
def Moment.depth (m : Moment) : Nat :=
  match m.offset with
  | none => 0
  | some seconds => if seconds == 0 then 1 else 2

namespace Value

/-- The integer has more digits than are ever written. -/
def isEndless (n : Int) : Bool := Number.longestInteger < Number.digitCount n.natAbs

mutual

/-- What stops the writing of a value first; `room` is left for values inside one
another. -/
def faultIn? (room : Nat) (v : Value) : Option Fault :=
  match room with
  | 0 => some .tooDeep
  | room + 1 =>
    match v with
    | int n => if isEndless n then some (.integerTooLong none) else none
    | moment m => if room < m.depth then some .tooDeep else none
    | list items => faultInItems? room items
    | tuple items => faultInItems? room items
    -- the members of a set are written as a list inside of it
    | set items => faultInItems? (room - 1) items
    | map entries => faultInEntries? room entries
    | _ => none

def faultInItems? (room : Nat) : List Value → Option Fault
  | [] => none
  | v :: rest => (faultIn? room v).or (faultInItems? room rest)

def faultInEntries? (room : Nat) : Entries → Option Fault
  | [] => none
  | (k, v) :: rest => ((faultIn? room k).or (faultIn? room v)).or (faultInEntries? room rest)

end

variable [Host]

/-- The fault instead of the text of the value. -/
def unwritable? (v : Value) : Option Fault := faultIn? Host.displayRoom v

theorem unwritable?_str (s : String) : unwritable? (.str s) = none := by
  obtain ⟨room, hroom⟩ := Nat.exists_eq_succ_of_ne_zero (Nat.ne_of_gt Host.displayRoom_pos)
  rw [unwritable?, hroom]
  rfl

end Value

namespace Failure

/-- A definition is refused for a value that its report shows. -/
def refusing [Host] (v : Value) (e : DefinitionError) : Failure :=
  match v.unwritable? with
  | some f => .fault f
  | none => .definition e

theorem refusing_str [Host] (s : String) (e : DefinitionError) :
    refusing (.str s) e = .definition e := by
  rw [refusing, Value.unwritable?_str]

end Failure

end PathPolicy
