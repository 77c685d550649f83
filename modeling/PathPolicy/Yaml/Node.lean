import PathPolicy.Yaml.Token.Lexer
import PathPolicy.Yaml.Tag

/-! Documents as trees. An alias stands for a copy of the node with its anchor; inside
that node itself it stands for a way back to it. -/

namespace PathPolicy.Yaml

inductive Node where
  | scalar (tag : Tag) (text : String)
  | sequence (tag : Tag) (anchor : Option String) (items : List Node)
  | mapping (tag : Tag) (anchor : Option String) (pairs : List (Node × Node))
  | enclosing (anchor : String) (isMap : Bool)
  deriving Inhabited

/-- What is still to be read, and the names that are known. Nodes nest no deeper than the
room that there is. -/
structure Reader where
  room : Nat
  tokens : List Token
  refusal : Option Refusal
  anchors : List (String × Node) := []
  handles : List (String × String) := []

namespace Reader

abbrev Reading := StateT Reader (Except Refusal)

def refuse {α : Type} (reason : Malformed) : Reading α := throw (.malformed reason)

/-- The next token, or nothing at the end. A place that cannot be read is found only
when it comes next. -/
def peek : Reading (Option Token) := do
  let r ← get
  match r.tokens, r.refusal with
  | t :: _, _ => return some t
  | [], some e => throw e
  | [], none => return none

def advance : Reading Unit := modify fun r => { r with tokens := r.tokens.tail }

def accept (t : Token) : Reading Bool := do
  if (← peek) == some t then
    advance
    return true
  return false

def isNext (ts : List Token) : Reading Bool := return (← peek).any ts.contains

/-- Properties of a node that stand before it. -/
structure Label where
  anchor : Option String := none
  tag : Option WrittenTag := none

def anchorLabel : Reading (Option String) := do
  match ← peek with
  | some (.anchor name) => advance; return some name
  | _ => return none

def tagLabel : Reading (Option WrittenTag) := do
  match ← peek with
  | some (.tag t) => advance; return some t
  | _ => return none

/-- An anchor and a tag in either order. -/
def label : Reading Label := do
  match ← anchorLabel with
  | some a => return ⟨some a, ← tagLabel⟩
  | none =>
    match ← tagLabel with
    | some t => return ⟨← anchorLabel, some t⟩
    | none => return {}

/-- The tag in full; a lone exclamation mark says nothing. -/
def tagText (t : Option WrittenTag) : Reading (Option String) := do
  match t with
  | none => return none
  | some ⟨none, suffix⟩ => return if suffix = "!" then none else some suffix
  | some ⟨some handle, suffix⟩ =>
    match (← get).handles.lookup handle with
    | none => refuse .undefinedHandle
    | some replacement =>
      let text := replacement ++ suffix
      return if text = "!" then none else some text

def tagOr (text : Option String) (usual : Tag) : Tag := (text.map Tag.ofText).getD usual

def setAnchor (anchor : Option String) (n : Node) : Reading Unit := do
  if let some name := anchor then
    modify fun r => { r with anchors := (name, n) :: r.anchors }

def checkRoom (depth : Nat) : Reading Unit := do
  if (← get).room ≤ depth then throw (.fault .tooDeep)

mutual

/-- A node. In a block the collections may go by indentation, and the entries of a
sequence under a key need none. -/
def node (depth : Nat) (inBlock mayLackIndent : Bool) : Nat → Reading Node
  | 0 => throw (.fault .tooDeep)
  | fuel + 1 => do
    checkRoom depth
    if let some (.alias name) := ← peek then
      advance
      match (← get).anchors.lookup name with
      | some n => return n
      | none => refuse .undefinedAlias
    let l ← label
    let tag ← tagText l.tag
    let ended ← peek
    content depth inBlock mayLackIndent l tag ended fuel
termination_by structural fuel => fuel

/-- What follows the properties of a node. -/
def content (depth : Nat) (inBlock mayLackIndent : Bool) (l : Reader.Label) (tag : Option String)
    (following : Option Token) : Nat → Reading Node
  | 0 => throw (.fault .tooDeep)
  | fuel + 1 => do
    let taken := (← get).anchors
    if l.anchor.any fun name => (taken.lookup name).isSome then refuse .repeatedAnchor
    let collection (isMap : Bool) (make : Reading Node) : Reading Node := do
      if let some name := l.anchor then
        setAnchor l.anchor (.enclosing name isMap)
      let n ← make
      setAnchor l.anchor n
      return n
    let sequence (items : Reading (List Node)) : Reading Node :=
      collection false do return .sequence (tagOr tag .seq) l.anchor (← items)
    let mapping (pairs : Reading (List (Node × Node))) : Reading Node :=
      collection true do return .mapping (tagOr tag .map) l.anchor (← pairs)
    let scalar (n : Node) : Reading Node := do
      setAnchor l.anchor n
      return n
    match following with
    | some (.scalar text plain) =>
      advance
      let isPlain := (plain && l.tag.isNone) || (l.tag.isSome && tag.isNone)
      scalar (.scalar (tagOr tag (if isPlain then Tag.ofPlain text else .str)) text)
    | some .flowSequenceStart =>
      advance
      sequence (flowItems (depth + 1) true fuel)
    | some .flowMappingStart =>
      advance
      mapping (flowPairs (depth + 1) true fuel)
    | following =>
      if mayLackIndent && following == some .blockEntry then
        sequence (looseItems (depth + 1) fuel)
      else if inBlock && following == some .blockSequenceStart then
        advance
        sequence (blockItems (depth + 1) fuel)
      else if inBlock && following == some .blockMappingStart then
        advance
        mapping (blockPairs (depth + 1) fuel)
      else if l.anchor.isSome || l.tag.isSome then
        scalar (.scalar (tagOr tag .null) "")
      else refuse .unexpectedToken
termination_by structural fuel => fuel

/-- A node, or an empty text if one of the tokens comes next. -/
def nodeUnless (depth : Nat) (inBlock mayLackIndent : Bool) (ts : List Token) :
    Nat → Reading Node
  | 0 => throw (.fault .tooDeep)
  | fuel + 1 => do
    if ← isNext ts then return .scalar .null ""
    node depth inBlock mayLackIndent fuel
termination_by structural fuel => fuel

/-- Entries up to the end of the block. -/
def blockItems (depth : Nat) : Nat → Reading (List Node)
  | 0 => throw (.fault .tooDeep)
  | fuel + 1 => do
    if ← accept .blockEntry then
      let n ← nodeUnless depth true false [.blockEntry, .blockEnd] fuel
      return n :: (← blockItems depth fuel)
    if ← accept .blockEnd then return []
    refuse .unexpectedToken
termination_by structural fuel => fuel

/-- Entries that are not indented more than their key. -/
def looseItems (depth : Nat) : Nat → Reading (List Node)
  | 0 => throw (.fault .tooDeep)
  | fuel + 1 => do
    if ← accept .blockEntry then
      let n ← nodeUnless depth true false [.blockEntry, .key, .value, .blockEnd] fuel
      return n :: (← looseItems depth fuel)
    return []
termination_by structural fuel => fuel

/-- Keys and values up to the end of the block. -/
def blockPairs (depth : Nat) : Nat → Reading (List (Node × Node))
  | 0 => throw (.fault .tooDeep)
  | fuel + 1 => do
    let ends : List Token := [.key, .value, .blockEnd]
    if ← accept .key then
      let k ← nodeUnless depth true true ends fuel
      let v ← if ← accept .value then nodeUnless depth true true ends fuel
        else pure (.scalar .null "")
      return (k, v) :: (← blockPairs depth fuel)
    if ← accept .blockEnd then return []
    refuse .unexpectedToken
termination_by structural fuel => fuel

/-- Items up to the closing bracket; a key begins a mapping of one pair. -/
def flowItems (depth : Nat) (isFirst : Bool) : Nat → Reading (List Node)
  | 0 => throw (.fault .tooDeep)
  | fuel + 1 => do
    if ← accept .flowSequenceEnd then return []
    if !isFirst then
      if !(← accept .flowEntry) then refuse .unexpectedToken
    if ← accept .key then
      let n ← flowPair depth fuel
      return n :: (← flowItems depth false fuel)
    if ← accept .flowSequenceEnd then return []
    let n ← node depth false false fuel
    return n :: (← flowItems depth false fuel)
termination_by structural fuel => fuel

/-- A mapping of one pair among the items of a sequence. -/
def flowPair (depth : Nat) : Nat → Reading Node
  | 0 => throw (.fault .tooDeep)
  | fuel + 1 => do
    checkRoom depth
    let k ← nodeUnless (depth + 1) false false [.value, .flowEntry, .flowSequenceEnd] fuel
    let v ← if ← accept .value then
        nodeUnless (depth + 1) false false [.flowEntry, .flowSequenceEnd] fuel
      else pure (.scalar .null "")
    return .mapping .map none [(k, v)]
termination_by structural fuel => fuel

/-- Pairs up to the closing brace; a key without a value has an empty one. -/
def flowPairs (depth : Nat) (isFirst : Bool) : Nat → Reading (List (Node × Node))
  | 0 => throw (.fault .tooDeep)
  | fuel + 1 => do
    if ← accept .flowMappingEnd then return []
    if !isFirst then
      if !(← accept .flowEntry) then refuse .unexpectedToken
    if ← accept .key then
      let k ← nodeUnless depth false false [.value, .flowEntry, .flowMappingEnd] fuel
      let v ← if ← accept .value then
          nodeUnless depth false false [.flowEntry, .flowMappingEnd] fuel
        else pure (.scalar .null "")
      return (k, v) :: (← flowPairs depth false fuel)
    if ← accept .flowMappingEnd then return []
    let k ← node depth false false fuel
    return (k, .scalar .null "") :: (← flowPairs depth false fuel)
termination_by structural fuel => fuel

end

/-- Directives before a document; the handles that every document has come last. -/
def directives (seen : Bool) (handles : List (String × String)) :
    Nat → Reading (List (String × String))
  | 0 => return handles
  | fuel + 1 => do
    match ← peek with
    | some (.directive (.version major _)) =>
      advance
      if seen || major ≠ 1 then refuse .badDirective
      directives true handles fuel
    | some (.directive (.handle name replacement)) =>
      advance
      if (handles.lookup name).isSome then refuse .badDirective
      directives seen (handles ++ [(name, replacement)]) fuel
    | some (.directive .other) =>
      advance
      directives seen handles fuel
    | _ => return handles

def usualHandles : List (String × String) := [("!", "!"), ("!!", Tag.start)]

/-- The only document, if the text has one. -/
def document (fuel : Nat) : Reading (Option Node) := do
  let first ← peek
  if first.isNone then return none
  let isMarked :=
    match first with
    | some (.directive _) => true
    | some .documentStart => true
    | _ => false
  let handles ← if isMarked then directives false [] fuel else pure []
  modify fun r => { r with handles := handles ++ usualHandles }
  if isMarked then
    if !(← accept .documentStart) then refuse .unexpectedToken
  let isEmpty ← if isMarked then isEnd else pure false
  let n ← if isEmpty then pure (.scalar .null "") else node 0 true false fuel
  skipEnds fuel
  if (← peek).isSome then refuse .secondDocument
  return some n
where
  isEnd : Reading Bool := do
    match ← peek with
    | none => return true
    | some (.directive _) => return true
    | some .documentStart => return true
    | some .documentEnd => return true
    | _ => return false
  skipEnds : Nat → Reading Unit
    | 0 => return
    | fuel + 1 => do
      if ← accept .documentEnd then skipEnds fuel

end Reader

/-- Every token is reached in a few steps. -/
def Node.ofTokens (room : Nat) (s : TokenStream) : Except Refusal (Option Node) :=
  let r : Reader := { room, tokens := s.tokens, refusal := s.refusal }
  ((Reader.document (4 * s.tokens.length + 8)).run r).map (·.1)

end PathPolicy.Yaml
