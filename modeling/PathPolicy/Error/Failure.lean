import PathPolicy.Error.Definition
import PathPolicy.Error.Fault

/-! How building something can fail: the definition is refused, or a fault stops the
work. -/

namespace PathPolicy

inductive Failure where
  | definition (e : DefinitionError)
  | fault (f : Fault)

instance : MonadLift (Except DefinitionError) (Except Failure) :=
  ⟨Except.mapError Failure.definition⟩

instance : MonadLift (Except Fault) (Except Failure) := ⟨Except.mapError Failure.fault⟩

end PathPolicy
