import PathPolicy.Registry

/-! Runs of a registry. A run starts with nothing registered and obeys one command after
another; only removals answer. -/

namespace PathPolicy.Registry

variable [Host]

/-- What changes a registry. -/
inductive Command where
  | register (s : Schema)
  | registerAll (schemas : List Schema)
  | registerSet (set : SchemaSet)
  | unregister (s : Schema)
  | unregisterPath (path : String)
  | clear

def answering (result : Registry × Bool) : Registry × Option Bool := (result.1, some result.2)

/-- The registry after the command, and the answer of a removal. -/
def step (r : Registry) : Command → Registry × Option Bool
  | .register s => (r.register s, none)
  | .registerAll schemas => (r.registerAll schemas, none)
  | .registerSet set => (r.registerSet set, none)
  | .unregister s => answering (r.unregisterSchema s)
  | .unregisterPath path => answering (r.unregisterPath path)
  | .clear => (r.clear, none)

def run (r : Registry) (commands : List Command) : Registry :=
  commands.foldl (fun r c => (r.step c).1) r

/-- The registry after a run. -/
def after (fallback : Schema) (commands : List Command) : Registry := (empty fallback).run commands

theorem run_cons (r : Registry) (c : Command) (commands : List Command) :
    r.run (c :: commands) = (r.step c).1.run commands := rfl

theorem run_append (r : Registry) (commands later : List Command) :
    r.run (commands ++ later) = (r.run commands).run later := List.foldl_append

theorem fallback_register (r : Registry) (s : Schema) : (r.register s).fallback = r.fallback := by
  unfold register
  split <;> rfl

theorem fallback_registerAll (r : Registry) (schemas : List Schema) :
    (r.registerAll schemas).fallback = r.fallback := by
  unfold registerAll
  induction schemas generalizing r with
  | nil => rfl
  | cons s rest ih => rw [List.foldl_cons, ih, fallback_register]

theorem fallback_unregister (r : Registry) (selector : Selector) :
    (r.unregister selector).fallback = r.fallback := by
  unfold unregister
  split <;> rfl

theorem fallback_unregisterPath (r : Registry) (path : String) :
    (r.unregisterPath path).1.fallback = r.fallback := by
  unfold unregisterPath
  split
  · rfl
  · split <;> rfl

/-- No command touches the schema of last resort. -/
theorem fallback_step (r : Registry) (c : Command) : (r.step c).1.fallback = r.fallback := by
  cases c with
  | register s => exact fallback_register r s
  | registerAll schemas => exact fallback_registerAll r schemas
  | registerSet set => exact fallback_registerAll r set.schemas
  | unregister s => exact fallback_unregister r s.selector
  | unregisterPath path => exact fallback_unregisterPath r path
  | clear => rfl

theorem fallback_run (r : Registry) (commands : List Command) :
    (r.run commands).fallback = r.fallback := by
  induction commands generalizing r with
  | nil => rfl
  | cons c rest ih => rw [run_cons, ih, fallback_step]

theorem fallback_after (fallback : Schema) (commands : List Command) :
    (after fallback commands).fallback = fallback := fallback_run _ _

end PathPolicy.Registry
