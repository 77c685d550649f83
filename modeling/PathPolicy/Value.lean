import PathPolicy.Value.Calendar
import PathPolicy.Number.Double

/-! Decoded document values: what a policy file, a configuration or a caller hands
over before anything is checked. -/

namespace PathPolicy

/-- A way back from inside a collection to a collection around it: `up` others lie
between. -/
structure Reference where
  up : Nat
  isMap : Bool
  deriving Repr, DecidableEq

/-- Mappings keep the order of their keys. `enclosing` stands for a collection that the
value is inside of. -/
inductive Value where
  | null
  | bool (b : Bool)
  | int (n : Int)
  | float (x : Float)
  | str (s : String)
  | bytes (b : List UInt8)
  | date (d : Date)
  | moment (m : Moment)
  | list (items : List Value)
  | tuple (items : List Value)
  | set (items : List Value)
  | map (entries : List (Value × Value))
  | enclosing (r : Reference)
  deriving Inhabited

abbrev Entries := List (Value × Value)

/-- Named values in order. -/
abbrev Fields := List (String × Value)

namespace Value

/-- Nothing, zero and whatever is empty are false. -/
def truthy : Value → Bool
  | null => false
  | bool b => b
  | int n => n != 0
  | float x => x != 0.0
  | str s => !s.isEmpty
  | bytes b => !b.isEmpty
  | date _ => true
  | moment _ => true
  | list items => !items.isEmpty
  | tuple items => !items.isEmpty
  | set items => !items.isEmpty
  | map entries => !entries.isEmpty
  | enclosing _ => true

def isNull : Value → Bool
  | null => true
  | _ => false

def typeName : Value → String
  | null => "NoneType"
  | bool _ => "bool"
  | int _ => "int"
  | float _ => "float"
  | str _ => "str"
  | bytes _ => "bytes"
  | date _ => "datetime.date"
  | moment _ => "datetime.datetime"
  | list _ => "list"
  | tuple _ => "tuple"
  | set _ => "set"
  | map _ => "dict"
  | enclosing r => if r.isMap then "dict" else "list"

/-- The number that a boolean, an integer or an integral double stands for. -/
def integral? : Value → Option Int
  | bool b => some (if b then 1 else 0)
  | int n => some n
  | float x => (Number.Double.ofFloat x).toInt?
  | _ => none

def sameFloat (x y : Float) : Bool := x == y || (x.isNaN && y.isNaN)

mutual

/-- The sameness of keys and names: numbers by what they count, collections by
their members. -/
def same : Value → Value → Bool
  | null, null => true
  | float x, float y => sameFloat x y
  | str a, str b => a == b
  | bytes a, bytes b => a == b
  | date a, date b => a == b
  | moment a, moment b => a.same b
  | list a, list b => sameItems a b
  | tuple a, tuple b => sameItems a b
  | set a, set b => a.length == b.length && sameMembers a b
  | map a, map b => a.length == b.length && sameEntries a b
  | enclosing a, enclosing b => a == b
  | a, b =>
    match integral? a, integral? b with
    | some m, some n => m == n
    | _, _ => false

def sameItems : List Value → List Value → Bool
  | [], [] => true
  | a :: r, b :: t => same a b && sameItems r t
  | _, _ => false

def sameMembers : List Value → List Value → Bool
  | [], _ => true
  | a :: r, others => others.any (same a ·) && sameMembers r others

def sameEntries : Entries → Entries → Bool
  | [], _ => true
  | (k, v) :: r, others =>
    others.any (fun e => same k e.1 && same v e.2) && sameEntries r others

end

/-- The value itself, or the collection that it leads back to, out of those around it from
the innermost on. -/
def follow (around : List Value) : Value → Value
  | enclosing r => (around[r.up]?).getD (enclosing r)
  | v => v

/-- The type of the first part that keeps the value from being a key. -/
def unhashable? : Value → Option String
  | list _ => some "list"
  | set _ => some "set"
  | map _ => some "dict"
  | enclosing r => some (if r.isMap then "dict" else "list")
  | tuple items => unhashableItem? items
  | _ => none
where
  unhashableItem? : List Value → Option String
    | [] => none
    | v :: r => (unhashable? v).or (unhashableItem? r)

end Value

namespace Entries

def get? (entries : Entries) (key : Value) : Option Value :=
  (entries.find? fun e => e.1.same key).map (·.2)

/-- The value under a text key. -/
def field? (entries : Entries) (key : String) : Option Value := get? entries (.str key)

def has (entries : Entries) (key : String) : Bool := (field? entries key).isSome

/-- Each value, or what it leads back to. -/
def follow (around : List Value) (entries : Entries) : Entries :=
  entries.map fun e => (e.1, e.2.follow around)

/-- A key that is there keeps its place and its spelling and takes the new value. -/
def insert (entries : Entries) (key value : Value) : Entries :=
  match entries with
  | [] => [(key, value)]
  | (k, v) :: rest =>
    if k.same key then (k, value) :: rest else (k, v) :: Entries.insert rest key value

end Entries

namespace Fields

/-- A name that is there keeps its place and takes the new value. -/
def insert (fields : Fields) (name : String) (value : Value) : Fields :=
  match fields with
  | [] => [(name, value)]
  | (n, v) :: rest =>
    if n = name then (n, value) :: rest else (n, v) :: Fields.insert rest name value

def update (fields more : Fields) : Fields := more.foldl (fun acc e => acc.insert e.1 e.2) fields

def toValue (fields : Fields) : Value := .map (fields.map fun e => (.str e.1, e.2))

end Fields

end PathPolicy
