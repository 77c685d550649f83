import PathPolicy.Files.Path
import PathPolicy.Error.Fault

/-! The files that exist, as far as policies and configurations are concerned. -/

namespace PathPolicy.Files

inductive Item where
  | file (bytes : List UInt8)
  | directory
  deriving Repr, DecidableEq

/-- Items by the parts of their absolute paths. The working directory, the home directory
and every directory above an item exist without being listed. -/
structure Disk where
  items : List (List String × Item) := []
  work : List String := []
  home : List String := []

namespace Disk

def homePath (d : Disk) : Path := ⟨"/", d.home⟩

/-- Something lies below the place. -/
def isAbove (d : Disk) (place : List String) : Bool :=
  place.isPrefixOf d.work || place.isPrefixOf d.home || d.items.any fun e => place.isPrefixOf e.1

def find? (d : Disk) (place : List String) : Option Item :=
  match d.items.lookup place with
  | some item => some item
  | none => if d.isAbove place then some .directory else none

def isDirectory (d : Disk) (place : List String) : Bool := d.find? place == some .directory

/-- Without the item at a place and all below it. -/
def remove (d : Disk) (place : List String) : Disk :=
  { d with items := d.items.filter fun e => !place.isPrefixOf e.1 }

def put (d : Disk) (place : List String) (item : Item) : Disk :=
  { d with items := (d.items.filter (·.1 ≠ place)) ++ [(place, item)] }

/-- The longest name and the longest path, in bytes. -/
def longestName : Nat := 255

def longestPath : Nat := 4095

inductive Missing where
  | absent
  | tooLong

/-- The place that the parts lead to from a place. A double dot leads up, from a
directory only. -/
def walk (d : Disk) (place : List String) : List String → Except Missing (List String)
  | [] => .ok place
  | p :: rest =>
    if !d.isDirectory place then .error .absent
    else if p = ".." then d.walk place.dropLast rest
    else if longestName < p.utf8ByteSize then .error .tooLong
    else if (d.find? (place ++ [p])).isSome then d.walk (place ++ [p]) rest
    else .error .absent

/-- The place of a path, if something is there. -/
def locate (d : Disk) (p : Path) : Except Fault (Option (List String)) :=
  if p.hasNul then .ok none
  else if longestPath < p.text.utf8ByteSize then .error (.nameTooLong p.text)
  else
    match d.walk (if p.isAbsolute then [] else d.work) p.parts with
    | .ok place => .ok (some place)
    | .error .absent => .ok none
    | .error .tooLong => .error (.nameTooLong p.text)

def contains (d : Disk) (p : Path) : Except Fault Bool := (d.locate p).map Option.isSome

def isDirectoryAt (d : Disk) (p : Path) : Except Fault Bool :=
  (d.locate p).map fun place => place.any d.isDirectory

/-- The content of a file that is there. -/
def read (d : Disk) (p : Path) : Except Fault (List UInt8) := do
  match (← d.locate p).bind d.find? with
  | some (.file bytes) => return bytes
  | _ => throw (.isDirectory p.text)

/-- The names in a directory. -/
def names (d : Disk) (place : List String) : List String :=
  let below := d.items.map (·.1) ++ [d.work, d.home]
  (below.filterMap fun parts =>
    if place.isPrefixOf parts then (parts.drop place.length).head? else none).eraseDups

/-- A tilde at the start stands for the home directory; homes of others are not known. -/
def expandHome (d : Disk) (p : Path) : Except Fault Path :=
  match p.isAbsolute, p.parts with
  | false, first :: rest =>
    if first = "~" then .ok (d.homePath.join ⟨"", rest⟩)
    else if first.toList.head? == some '~' then .error .noHome
    else .ok p
  | _, _ => .ok p

/-- The absolute path without double dots. -/
def resolve (d : Disk) (p : Path) : Except Fault Path :=
  if p.hasNul then .error .nulInPath
  else .ok ⟨"/", Path.collapse (if p.isAbsolute then [] else d.work) p.parts⟩

end Disk

end PathPolicy.Files
