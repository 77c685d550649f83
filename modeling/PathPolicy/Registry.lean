import PathPolicy.Registry.Shelf
import PathPolicy.Registry.Fallback
import PathPolicy.Notice
import PathPolicy.SchemaSet

/-! The registry selects the schema that governs a path: the schema for that exact
path, else the first registered one whose pattern matches, else the fallback. -/

namespace PathPolicy

variable [Host]

/-- Schemas for exact paths under their paths, and schemas for patterns under their
patterns, each in the order of registration. -/
structure Registry where
  fallback : Schema
  exact : Shelf Selector.path? := {}
  patterns : Shelf Selector.pattern? := {}

namespace Registry

/-- Nothing is registered. -/
def empty (fallback : Schema) : Registry := { fallback }

/-- Without a schema of its own the registry falls back as the mode says. -/
def make (fallback : Option Schema) (mode : Value) : Except Failure Registry :=
  match fallback with
  | some s => .ok (empty s)
  | none => (DefaultMode.parse mode).map fun m => empty m.schema

/-- Exact paths first. -/
def schemas (r : Registry) : List Schema := r.exact.schemas ++ r.patterns.schemas

def count (r : Registry) : Nat := r.exact.size + r.patterns.size

/-- The schema in the slot of a selector. -/
def find? (r : Registry) (selector : Selector) : Option Schema :=
  match selector with
  | .exact e => r.exact.get? e.path
  | .pattern p => r.patterns.get? p

/-- A schema whose selector is registered replaces the old one in its place. -/
def register (r : Registry) (s : Schema) : Registry :=
  match h : s.selector with
  | .exact e => { r with exact := r.exact.put e.path s (by rw [h]; rfl) }
  | .pattern p => { r with patterns := r.patterns.put p s (by rw [h]; rfl) }

def registerAll (r : Registry) (schemas : List Schema) : Registry := schemas.foldl register r

def registerSet (r : Registry) (set : SchemaSet) : Registry := r.registerAll set.schemas

/-- What registering the schema is announced with. -/
def announcement (r : Registry) (s : Schema) : Notice :=
  if (r.find? s.selector).isSome then .replaced s.path else .registered s.name s.path

def announcements (r : Registry) : List Schema → List Notice
  | [] => []
  | s :: rest => r.announcement s :: (r.register s).announcements rest

def setAnnouncements (r : Registry) (set : SchemaSet) : List Notice :=
  r.announcements set.schemas ++ [.setRegistered set.name set.schemas.length]

/-- Empties the slot of a selector. -/
def unregister (r : Registry) (selector : Selector) : Registry :=
  match selector with
  | .exact e => { r with exact := r.exact.remove e.path }
  | .pattern p => { r with patterns := r.patterns.remove p }

/-- Removes the schema with the selector of another, and tells whether there was one. -/
def unregisterSchema (r : Registry) (s : Schema) : Registry × Bool :=
  (r.unregister s.selector, (r.find? s.selector).isSome)

/-- Removes one schema with that path, the exact one or else the first pattern with that
text, and tells whether there was one. -/
def unregisterPath (r : Registry) (path : String) : Registry × Bool :=
  if (r.exact.get? path).isSome then ({ r with exact := r.exact.remove path }, true)
  else
    match r.patterns.keys.find? (·.source = path) with
    | some p => ({ r with patterns := r.patterns.remove p }, true)
    | none => (r, false)

def clear (r : Registry) : Registry := empty r.fallback

/-- The schema under the path itself is not matched against it. -/
def select (r : Registry) (path : String) : Schema :=
  match r.exact.get? path with
  | some s => s
  | none => (r.patterns.schemas.find? (·.isMatch path)).getD r.fallback

/-- A path that is no text has no schema of its own; collections and, where there are
patterns, any such path is a fault. -/
def lookup (r : Registry) (path : Value) : Except Fault Schema :=
  match path with
  | .str path => .ok (r.select path)
  | v =>
    match v.unhashable? with
    | some typeName => .error (.unhashable typeName)
    | none => if r.patterns.isEmpty then .ok r.fallback else .error (.notText v.typeName)

def named? (r : Registry) (name : Value) : Option Schema := r.schemas.find? (·.name.same name)

/-- Every schema, then the fallback. -/
def listing (r : Registry) : String :=
  String.intercalate "\n" ((r.schemas ++ [r.fallback]).map Schema.listing)

def display (r : Registry) : String :=
  "SchemaRegistry(exact=" ++ toString r.exact.size ++ ", patterns=" ++
    toString r.patterns.size ++ ", default=" ++ r.fallback.name.display ++ ")"

end Registry

end PathPolicy
