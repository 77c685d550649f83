import PathPolicy.Error.Refusal
import PathPolicy.Text.Case

/-! What a schema says about one property of a node. -/

namespace PathPolicy

inductive Allowance where
  | can
  | must
  | cannot
  deriving Repr, DecidableEq

namespace Allowance

/-- As given by a caller: an allowance, or a value to be read as one. -/
inductive Given where
  | allowance (a : Allowance)
  | value (v : Value)

def all : List Allowance := [can, must, cannot]

def word : Allowance → String
  | can => "can"
  | must => "must"
  | cannot => "cannot"

def name : Allowance → String
  | can => "CAN"
  | must => "MUST"
  | cannot => "CANNOT"

/-- White space around a word and the case of its letters do not matter. -/
def ofText? (s : String) : Option Allowance :=
  let text := Text.lower (Text.trim s)
  all.find? (·.word = text)

def parse [Host] (v : Value) : Except Failure Allowance :=
  match ofText? v.text with
  | some a => .ok a
  | none => .error (.refusing v (.unknownAllowance v))

/-- A node that has the property conflicts with `cannot`, one without it with `must`. -/
def permits (a : Allowance) (has : Bool) : Bool :=
  if has then a ≠ cannot else a ≠ must

end Allowance

namespace Allowance.Given

def parse [Host] : Given → Except Failure Allowance
  | .allowance a => .ok a
  | .value v => Allowance.parse v

end Allowance.Given

end PathPolicy
