import PathPolicy.Files.Disk
import PathPolicy.Notice
import PathPolicy.SchemaSet

/-! Where schema sets come from: files of a directory, sets held in memory, and several
sources one after another. -/

namespace PathPolicy

open Files

variable [Host]

/-- Sets by name, with at most one of each name. -/
abbrev NamedSets := List (String × SchemaSet)

namespace NamedSets

/-- A name that is there keeps its place. -/
def put (name : String) (s : SchemaSet) : NamedSets → NamedSets
  | [] => [(name, s)]
  | (n, t) :: rest => if n = name then (n, s) :: rest else (n, t) :: put name s rest

def remove (name : String) (sets : NamedSets) : NamedSets := sets.filter (·.1 ≠ name)

end NamedSets

/-- In order and without repetition. -/
def sortedNames (names : List String) : List String := (names.mergeSort (· ≤ ·)).eraseReps

/-- Sets in the files of a directory. What was read is kept until a reload. -/
structure DirectoryLoader where
  base : Path
  validators : Validator.Table := []
  cache : NamedSets := []

namespace DirectoryLoader

def make (d : Disk) (base : String) (validators : Validator.Table) :
    Except Fault DirectoryLoader := do
  return { base := ← d.resolve (← d.expandHome (.ofText base)), validators }

/-- What the names of files end in, in the order in which they are looked for. -/
def endings : List String := [".yml", ".yaml"]

def file (l : DirectoryLoader) (name ending : String) : Path := l.base.join (.ofText (name ++ ending))

/-- The first file that exists among some. -/
def existing? (d : Disk) : List Path → Except Fault (Option Path)
  | [] => .ok none
  | p :: rest => do if ← d.contains p then return some p else existing? d rest

def file? (d : Disk) (l : DirectoryLoader) (name : String) : Except Fault (Option Path) :=
  existing? d (endings.map (l.file name))

/-- The value in a file; a document that is malformed is a definition that is refused. -/
def readFile (d : Disk) (p : Path) : Except Failure Value := do
  match Host.readDocument (← d.read p) with
  | .ok v => return v
  | .error (.malformed reason) => throw (.definition (.unreadableSet p.text reason))
  | .error (.fault f) => throw (.fault f)

def readSet (d : Disk) (l : DirectoryLoader) (name : String) (p : Path) :
    Except Failure SchemaSet := do
  SchemaSet.ofValue (← readFile d p) name l.validators

/-- A load that finds nothing or fails keeps nothing. A set whose name cannot be told is not
kept. -/
def load (d : Disk) (l : DirectoryLoader) (name : String) :
    Logged Failure (Option SchemaSet × DirectoryLoader) :=
  match l.cache.lookup name with
  | some s => ⟨.ok (some s, l), []⟩
  | none =>
    match l.file? d name with
    | .error f => ⟨.error (.fault f), []⟩
    | .ok none => ⟨.ok (none, l), []⟩
    | .ok (some p) =>
      match readSet d l name p with
      | .error e => ⟨.error e, []⟩
      | .ok s =>
        match s.name.unwritable? with
        | some f => ⟨.error (.fault f), []⟩
        | none => ⟨.ok (some s, { l with cache := (name, s) :: l.cache }), [.loaded s.name p.text]⟩

/-- The stems of the names with one of the endings. -/
def list (d : Disk) (l : DirectoryLoader) : Except Fault (List String) := do
  match ← d.locate l.base with
  | none => return []
  | some place =>
    if !d.isDirectory place then return []
    let names := (d.names place).filter fun n => endings.any fun e => e.toList.isSuffixOf n.toList
    return sortedNames (names.map Path.stem)

def reload (l : DirectoryLoader) : DirectoryLoader := { l with cache := [] }

end DirectoryLoader

/-- A source of schema sets. -/
inductive Loader where
  | directory (l : DirectoryLoader)
  | memory (sets : NamedSets)
  | composite (loaders : List Loader)

namespace Loader

mutual

/-- The first source that knows the name answers, and later ones are not asked. -/
def load (d : Disk) (name : String) : Loader → Logged Failure (Option SchemaSet × Loader)
  | directory l => (fun r => (r.1, directory r.2)) <$> l.load d name
  | memory sets => ⟨.ok (sets.lookup name, memory sets), []⟩
  | composite loaders => (fun r => (r.1, composite r.2)) <$> loadFirst d name loaders

def loadFirst (d : Disk) (name : String) :
    List Loader → Logged Failure (Option SchemaSet × List Loader)
  | [] => ⟨.ok (none, []), []⟩
  | l :: rest => do
    let (found, l) ← load d name l
    if found.isSome then return (found, l :: rest)
    let (found, rest) ← loadFirst d name rest
    return (found, l :: rest)

end

mutual

/-- The names of all sets that are there. -/
def list (d : Disk) : Loader → Except Fault (List String)
  | directory l => l.list d
  | memory sets => .ok (sortedNames (sets.map (·.1)))
  | composite loaders => (listAll d loaders).map sortedNames

def listAll (d : Disk) : List Loader → Except Fault (List String)
  | [] => .ok []
  | l :: rest => do return (← list d l) ++ (← listAll d rest)

end

mutual

/-- Forgets what was read. -/
def reload : Loader → Loader
  | directory l => directory l.reload
  | memory sets => memory sets
  | composite loaders => composite (reloadAll loaders)

def reloadAll : List Loader → List Loader
  | [] => []
  | l :: rest => reload l :: reloadAll rest

end

/-- Only sets in memory can be added; other sources stay as they are. -/
def add (name : String) (s : SchemaSet) : Loader → Loader
  | memory sets => memory (sets.put name s)
  | l => l

/-- The source without the set, and whether it was there. -/
def remove (name : String) : Loader → Loader × Bool
  | memory sets => (memory (sets.remove name), (sets.lookup name).isSome)
  | l => (l, false)

end Loader

end PathPolicy
