import PathPolicy.Error.Refusal
import PathPolicy.Regex.Program
import PathPolicy.Text.Blank

/-! Which paths a schema is about: one path exactly, or all paths that an expression
matches as a whole. A selector is never blank and its expression always compiles; two
patterns are the same when their text and flags are. -/

namespace PathPolicy

variable [Host]

structure ExactPath where
  path : String
  notBlank : Text.isBlankText path = false
  deriving DecidableEq

namespace ExactPath

instance : Hashable ExactPath := ⟨fun e => hash e.path⟩

def ofValue (v : Value) : Except Failure ExactPath :=
  match v with
  | .str s =>
    if h : Text.isBlankText s = false then .ok ⟨s, h⟩
    else .error (.definition (.blankText .path v))
  | _ => .error (.refusing v (.blankText .path v))

end ExactPath

structure PathPattern where
  source : String
  flags : Regex.Flags
  program : Regex.Program
  notBlank : Text.isBlankText source = false
  compiled : Host.compile .pattern source flags = .ok program

namespace PathPattern

theorem eq_of_source_of_flags {p q : PathPattern} (hs : p.source = q.source)
    (hf : p.flags = q.flags) : p = q := by
  obtain ⟨s, f, a, _, ha⟩ := p
  obtain ⟨t, g, b, _, hb⟩ := q
  simp only at hs hf
  subst hs hf
  have : a = b := Except.ok.inj (ha.symm.trans hb)
  subst this
  rfl

instance : DecidableEq PathPattern := fun p q =>
  if h : p.source = q.source ∧ p.flags = q.flags then
    .isTrue (eq_of_source_of_flags h.1 h.2)
  else
    .isFalse (fun e => h ⟨e ▸ rfl, e ▸ rfl⟩)

instance : Hashable PathPattern := ⟨fun p => mixHash (hash p.source) (hash p.flags)⟩

/-- The expression is refused if its text is at fault, and for its flags and limits
only a fault is reported. -/
def make (source : String) (flags : Regex.Flags) : Except Failure PathPattern :=
  if hb : Text.isBlankText source = false then
    match hc : Host.compile .pattern source flags with
    | .ok program => .ok ⟨source, flags, program, hb, hc⟩
    | .error (.malformed reason) => .error (.definition (.invalidPattern source reason))
    | .error fault => .error (.fault (.pattern fault))
  else
    .error (.definition (.blankText .pattern (.str source)))

def ofValue (v : Value) (flags : Regex.Flags) : Except Failure PathPattern :=
  match v with
  | .str s => make s flags
  | _ => .error (.refusing v (.blankText .pattern v))

def isMatch (p : PathPattern) (path : String) : Bool := p.program.fullMatch path

end PathPattern

inductive Selector where
  | exact (e : ExactPath)
  | pattern (p : PathPattern)
  deriving DecidableEq, Hashable

namespace Selector

def isExact : Selector → Bool
  | exact _ => true
  | pattern _ => false

/-- The path, or the text of the expression. -/
def raw : Selector → String
  | exact e => e.path
  | pattern p => p.source

/-- An exact path has no flags. -/
def flags : Selector → Regex.Flags
  | exact _ => 0
  | pattern p => p.flags

def isMatch (s : Selector) (path : String) : Bool :=
  match s with
  | exact e => path = e.path
  | pattern p => p.isMatch path

/-- Only an expression minds what it is matched against. -/
def isMatchValue (s : Selector) (path : Value) : Except Fault Bool :=
  match s, path with
  | s, .str path => .ok (s.isMatch path)
  | exact _, _ => .ok false
  | pattern _, v => .error (.notText v.typeName)

end Selector

end PathPolicy
