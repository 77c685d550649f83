/-! Paths of files. Empty parts and single dots are left out; double dots stay, since
where they lead depends on the disk. -/

namespace PathPolicy.Files

/-- `root` is empty for a path that begins at the working directory, and has one or two
slashes for any other. -/
structure Path where
  root : String := ""
  parts : List String
  deriving Repr, DecidableEq

namespace Path

def partsOf (cs : List Char) : List String :=
  ((cs.splitOn '/').filter fun p => !p.isEmpty && p ≠ ['.']).map String.ofList

/-- Exactly two slashes at the start are a root of their own. -/
def rootOf (cs : List Char) : String :=
  match (cs.takeWhile (· = '/')).length with
  | 0 => ""
  | 2 => "//"
  | _ => "/"

def ofText (s : String) : Path := ⟨rootOf s.toList, partsOf s.toList⟩

def isAbsolute (p : Path) : Bool := !p.root.isEmpty

/-- An absolute path replaces what is before it. -/
def join (p q : Path) : Path := if q.isAbsolute then q else { p with parts := p.parts ++ q.parts }

def text (p : Path) : String :=
  let s := p.root ++ String.intercalate "/" p.parts
  if s.isEmpty then "." else s

def hasNul (p : Path) : Bool := p.parts.any (·.toList.contains '\x00')

/-- The parts with every double dot worked out by itself. -/
def collapse (done : List String) : List String → List String
  | [] => done
  | p :: rest => if p = ".." then collapse done.dropLast rest else collapse (done ++ [p]) rest

/-- A name without what follows its last dot, unless the dot begins or ends it. -/
def stem (name : String) : String :=
  let tail := (name.toList.reverse.takeWhile (· ≠ '.')).length
  let place := name.length - (tail + 1)
  if tail < name.length && 0 < place && 0 < tail then String.ofList (name.toList.take place)
  else name

end Path

end PathPolicy.Files
