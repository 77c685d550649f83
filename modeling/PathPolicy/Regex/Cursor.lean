import PathPolicy.Regex.Node
import PathPolicy.Regex.Fault

/-! The place in an expression that is being read. The text comes as characters and
pairs of a backslash and a character; the reader always holds the one that comes
next, so that a backslash at the end is found as soon as all before it was used. -/

namespace PathPolicy.Regex

inductive Token where
  | char (c : Char)
  | escaped (c : Char)
  deriving Repr, DecidableEq

namespace Token

def chars : Token → List Char
  | char c => [c]
  | escaped c => ['\\', c]

end Token

/-- `widths` has an entry for each group in order, empty while the group is open;
`lookbehindFrom` counts the groups before the outermost lookbehind. -/
structure ReadState where
  next : Option Token
  rest : List Char
  flags : Flags
  names : List (String × Nat) := []
  widths : List (Option Width) := []
  lookbehindFrom : Option Nat := none
  conditions : List Nat := []

abbrev Reading := StateT ReadState (Except Fault)

namespace Reading

def fail {α : Type} (reason : Malformed) : Reading α := throw (.malformed reason)

def advance : Reading Unit := do
  let s ← get
  match s.rest with
  | [] => set { s with next := none }
  | ['\\'] => fail .escapeAtEnd
  | '\\' :: c :: rest => set { s with next := some (.escaped c), rest := rest }
  | c :: rest => set { s with next := some (.char c), rest := rest }

/-- The token that comes next. -/
def peek : Reading (Option Token) := return (← get).next

/-- Takes the token that comes next. -/
def take : Reading (Option Token) := do
  let token ← peek
  advance
  return token

/-- Takes the token that comes next if it is the character `c`. -/
def accept (c : Char) : Reading Bool := do
  if (← peek) == some (.char c) then
    advance
    return true
  return false

/-- At most `n` characters of a kind. -/
def takeWhile (kind : Char → Bool) : Nat → Reading (List Char)
  | 0 => return []
  | n + 1 => do
    match ← peek with
    | some (.char c) =>
      if kind c then
        advance
        return c :: (← takeWhile kind n)
      return []
    | _ => return []

/-- All up to `stop`, which is taken too and must come. -/
def takeUntil (stop : Char) (reason : Malformed) : Nat → Reading (List Char)
  | 0 => fail reason
  | fuel + 1 => do
    match ← take with
    | none => fail reason
    | some token =>
      if token == .char stop then return []
      return token.chars ++ (← takeUntil stop reason fuel)

/-- Text up to `stop` that is not empty. -/
def takeName (stop : Char) (reason : Malformed) : Reading (List Char) := do
  let name ← takeUntil stop reason ((← get).rest.length + 2)
  if name.isEmpty then fail reason
  return name

/-! Groups. -/

def largestGroup : Nat := 1073741823

/-- Groups are numbered from 1, group 0 being the whole. -/
def groupCount (s : ReadState) : Nat := s.widths.length + 1

def openGroup (name : Option (List Char)) : Reading Nat := do
  let s ← get
  let index := groupCount s
  if largestGroup < index + 1 then fail .tooManyGroups
  match name with
  | none => set { s with widths := s.widths ++ [none] }
  | some cs =>
    let text := String.ofList cs
    if (s.names.lookup text).isSome then fail (.repeatedGroupName text)
    set { s with widths := s.widths ++ [none], names := (text, index) :: s.names }
  return index

/-- The closed groups with their widths. -/
def closedGroups (s : ReadState) : List (Nat × Width) :=
  s.widths.zipIdx.filterMap fun (w, i) => w.map (i + 1, ·)

def isClosed (s : ReadState) (group : Nat) : Bool := ((closedGroups s).lookup group).isSome

def closeGroup (index : Nat) (body : Node) : Reading Unit :=
  modify fun s => { s with
    widths := s.widths.set (index - 1) (some (body.widthIn (closedGroups s))) }

def checkLookbehind (group : Nat) : Reading Unit := do
  let s ← get
  if let some first := s.lookbehindFrom then
    if !isClosed s group then fail .referenceToOpenGroup
    if first ≤ group then fail .referenceInsideLookbehind

def reference (group : Nat) : Reading Node := do
  let s ← get
  if groupCount s ≤ group then fail .unknownGroup
  if !isClosed s group then fail .referenceToOpenGroup
  checkLookbehind group
  return .backref group

end Reading

end PathPolicy.Regex
