import PathPolicy.Schema.Check

/-! Notices tell an operator what was done. Work that leaves notices has an outcome
and the notices in the order in which they were left. -/

namespace PathPolicy

inductive Level where
  | debug
  | info
  | warning
  deriving Repr, DecidableEq

def Level.word : Level → String
  | debug => "DEBUG"
  | info => "INFO"
  | warning => "WARNING"

/-- The part of the library that a notice comes from. -/
inductive Channel where
  | registry
  | guard
  | files
  | config
  | assembly
  deriving Repr, DecidableEq

/-- What a guard is asked to check. -/
inductive Operation where
  | create
  | delete
  | watch
  | setData
  deriving Repr, DecidableEq

def Operation.word : Operation → String
  | create => "create"
  | delete => "delete"
  | watch => "watch"
  | setData => "set_data"

inductive Notice where
  | replaced (path : String)
  | registered (name : Value) (path : String)
  | setRegistered (name : Value) (size : Nat)
  | selected (name path : Value)
  | rejected (operation : Operation) (path : Value) (reason : String) (name : Value)
  | loaded (name : Value) (file : String)
  | unknownConfigKey (key : Value)
  | unreadableConfig (path reason : String)
  | configNotMapping (path : String)
  | configuration (issue : String)

namespace Notice

def level : Notice → Level
  | replaced _ => .info
  | registered _ _ => .debug
  | setRegistered _ _ => .info
  | selected _ _ => .debug
  | loaded _ _ => .debug
  | _ => .warning

def channel : Notice → Channel
  | replaced _ => .registry
  | registered _ _ => .registry
  | setRegistered _ _ => .registry
  | selected _ _ => .guard
  | rejected _ _ _ _ => .guard
  | loaded _ _ => .files
  | configuration _ => .assembly
  | _ => .config

def message : Notice → String
  | replaced path => "Replaced schema for " ++ Text.quote path
  | registered name path => "Registered schema " ++ name.display ++ " for " ++ Text.quote path
  | setRegistered name size =>
    "Registered schema set " ++ name.display ++ " (" ++ toString size ++ " schemas)"
  | selected name path => "Schema " ++ name.display ++ " selected for " ++ path.display
  | rejected operation path reason name =>
    "Rejected " ++ operation.word ++ " on " ++ path.display ++ ": " ++ reason ++
      " (schema " ++ name.display ++ ")"
  | loaded name file => "Loaded schema set " ++ name.display ++ " from " ++ file
  | unknownConfigKey key => "Ignoring unknown config key: " ++ key.text
  | unreadableConfig path reason =>
    "Cannot read config " ++ path ++ ", using defaults: " ++ reason
  | configNotMapping path => "Config " ++ path ++ " is not a mapping, using defaults"
  | configuration issue => "Configuration: " ++ issue

/-- The fault instead of the text of the notice, if a value that it shows cannot be written. -/
def fault? [Host] : Notice → Option Fault
  | registered name _ => name.unwritable?
  | setRegistered name _ => name.unwritable?
  | selected name path => name.unwritable?.or path.unwritable?
  | rejected _ path _ name => path.unwritable?.or name.unwritable?
  | loaded name _ => name.unwritable?
  | unknownConfigKey key => key.unwritable?
  | _ => none

end Notice

/-- Notices are kept when the work fails. -/
structure Logged (ε α : Type) where
  outcome : Except ε α
  notices : List Notice := []

namespace Logged

variable {ε α β : Type}

def bind (x : Logged ε α) (f : α → Logged ε β) : Logged ε β :=
  match x.outcome with
  | .error e => ⟨.error e, x.notices⟩
  | .ok a =>
    let y := f a
    ⟨y.outcome, x.notices ++ y.notices⟩

instance : Monad (Logged ε) where
  pure a := ⟨.ok a, []⟩
  bind := bind

instance : MonadExceptOf ε (Logged ε) where
  throw e := ⟨.error e, []⟩
  tryCatch x handle :=
    match x.outcome with
    | .ok _ => x
    | .error e =>
      let y := handle e
      ⟨y.outcome, x.notices ++ y.notices⟩

instance : MonadLift (Except ε) (Logged ε) := ⟨fun x => ⟨x, []⟩⟩

def tell (notices : List Notice) : Logged ε Unit := ⟨.ok (), notices⟩

/-- Leaves notices up to the first that cannot be written. -/
def announce [Host] : List Notice → Logged Failure Unit
  | [] => tell []
  | n :: rest =>
    match n.fault? with
    | some f => ⟨.error (.fault f), []⟩
    | none => do
      tell [n]
      announce rest

theorem bind_pure (x : Logged ε α) : x.bind pure = x := by
  obtain ⟨outcome, notices⟩ := x
  cases outcome <;> simp [bind, pure]

theorem bind_bind {γ : Type} (x : Logged ε α) (f : α → Logged ε β) (g : β → Logged ε γ) :
    (x.bind f).bind g = x.bind fun a => (f a).bind g := by
  unfold bind
  cases x.outcome with
  | error e => rfl
  | ok a => cases hf : (f a).outcome <;> simp [hf]

instance : LawfulMonad (Logged ε) := .mk' _ bind_pure (fun _ _ => rfl) bind_bind

/-! The outcome of work that is put together does not depend on its notices. -/

theorem outcome_bind (x : Logged ε α) (f : α → Logged ε β) :
    (x >>= f).outcome = x.outcome.bind fun a => (f a).outcome := by
  show (x.bind f).outcome = _
  unfold bind
  cases x.outcome <;> rfl

theorem outcome_map (f : α → β) (x : Logged ε α) : (f <$> x).outcome = x.outcome.map f := by
  show (x.bind _).outcome = _
  unfold bind
  cases x.outcome <;> rfl

theorem notices_map (f : α → β) (x : Logged ε α) : (f <$> x).notices = x.notices := by
  rcases x with ⟨e | a, notices⟩
  · rfl
  · exact List.append_nil notices

end Logged

end PathPolicy
