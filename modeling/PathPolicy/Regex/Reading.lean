import PathPolicy.Regex.Heading

/-! Reading an expression: branches, their sequences, and groups inside groups. -/

namespace PathPolicy.Regex

namespace Reading

variable [CharacterNames]

/-- The atoms that all sequences begin with, and what is left of each. -/
def splitCommon : List Node → List (List Node) → List Node × List (List Node)
  | [], others => ([], [] :: others)
  | n :: rest, others =>
    if n.isAtom && others.all (·.head? == some n) then
      let (common, left) := splitCommon rest (others.map List.tail)
      (n :: common, left)
    else ([], (n :: rest) :: others)

/-- The items of a sequence that is one character or one class that is not negated. -/
def asItems? : List Node → Option (List ClassItem)
  | [.char code] => some [.char code]
  | [.oneOf false items] => some items
  | _ => none

/-- Branches: a common beginning is taken out, and branches of one character each
become a class. -/
def branches (sequences : List (List Node)) : List Node :=
  match sequences with
  | [] => []
  | [only] => only
  | first :: others =>
    let (common, left) := splitCommon first others
    match left.mapM asItems? with
    | some items => common ++ [.oneOf false items.flatten.eraseDups]
    | none => common ++ [Node.ofBranches (left.map Node.ofList)]

def expectClose : Reading Unit := do
  if !(← accept ')') then fail .unterminatedGroup

/-- Outside a class, when spaces and comments do not count. -/
def isSpacing (c : Char) : Bool := c = ' ' || (0x09 ≤ c.toNat && c.toNat ≤ 0x0D)

def skipLine : Nat → Reading Unit
  | 0 => return
  | fuel + 1 => do
    match ← take with
    | none => return
    | some (.char '\n') => return
    | some _ => skipLine fuel

def repeatPiece (sign : Char) (pieces : List Piece) : Reading (List Piece) := do
  match ← bounds? sign with
  | none => return .node (.char sign.toNat) :: pieces
  | some (least, most) =>
    match pieces with
    | [] => fail .nothingToRepeat
    | last :: before =>
      let body ← last.repeated
      return .node (.loop (← greed) least most body) :: before

/-- A character or a sign that is no parenthesis. -/
def simplePiece (token : Token) (pieces : List Piece) : Reading (List Piece) := do
  match token with
  | .escaped c => return .node (← escape c) :: pieces
  | .char c =>
    if c = '[' then return .node (← characterClass) :: pieces
    else if c = '*' || c = '+' || c = '?' || c = '\x7b' then repeatPiece c pieces
    else if c = '.' then return .node .any :: pieces
    else if c = '^' then return .node (.anchor .lineStart) :: pieces
    else if c = '$' then return .node (.anchor .lineEnd) :: pieces
    else return .node (.char c.toNat) :: pieces

def flatten (pieces : List Piece) : List Node := pieces.reverse.flatMap Piece.parts

mutual

/-- Branches up to a closing parenthesis or the end. -/
def alternation (depth : Nat) (verbose : Bool) (done : List (List Node)) :
    Nat → Reading (List Node)
  | 0 => throw .tooDeep
  | fuel + 1 => do
    let parts ← sequence depth verbose (depth == 0 && done.isEmpty) [] fuel
    let done := done ++ [parts]
    if ← accept '|' then
      let s ← get
      alternation depth (if depth == 0 then s.flags.has .verbose else verbose) done fuel
    else return branches done

/-- One branch. `pieces` is what was read so far, last piece first; `first` holds at
the start of the whole expression. -/
def sequence (depth : Nat) (verbose first : Bool) (pieces : List Piece) :
    Nat → Reading (List Node)
  | 0 => throw .tooDeep
  | fuel + 1 => do
    match ← peek with
    | none => return flatten pieces
    | some token =>
      if token == .char '|' || token == .char ')' then return flatten pieces
      advance
      match token with
      | .char c =>
        if verbose && isSpacing c then sequence depth verbose first pieces fuel
        else if verbose && c = '#' then
          skipLine ((← get).rest.length + 2)
          sequence depth verbose first pieces fuel
        else if c = '(' then
          match ← opened depth verbose (first && pieces.isEmpty) fuel with
          | .nothing => sequence depth verbose first pieces fuel
          | .globalFlags _ =>
            sequence depth ((← get).flags.has .verbose) first pieces fuel
          | .part p => sequence depth verbose first (p :: pieces) fuel
        else sequence depth verbose first (← simplePiece token pieces) fuel
      | .escaped _ => sequence depth verbose first (← simplePiece token pieces) fuel

/-- What follows an opening parenthesis. -/
def opened (depth : Nat) (verbose isStart : Bool) : Nat → Reading Opened
  | 0 => throw .tooDeep
  | fuel + 1 => do
    match ← heading isStart with
    | .done o => return o
    | .body kind =>
      match kind with
      | .capturing name =>
        let index ← openGroup name
        let body := Node.ofList (← alternation (depth + 1) verbose [] fuel)
        expectClose
        closeGroup index body
        return .part (.node (.group (some index) {} body))
      | .scoped scope =>
        let verbose := scope.setting .verbose verbose
        let parts ← alternation (depth + 1) verbose [] fuel
        expectClose
        if scope.isPlain then return .part (.inlined parts)
        return .part (.node (.group none scope (Node.ofList parts)))
      | .atomic =>
        let parts ← alternation (depth + 1) verbose [] fuel
        expectClose
        return .part (.node (.atomic (Node.ofList parts)))
      | .look behind negated =>
        let outer := (← get).lookbehindFrom
        if behind && outer.isNone then
          modify fun s => { s with lookbehindFrom := some (groupCount s) }
        let body := Node.ofList (← alternation (depth + 1) verbose [] fuel)
        if behind then modify fun s => { s with lookbehindFrom := outer }
        expectClose
        let s ← get
        let width := if behind then some (body.widthIn (closedGroups s)) else none
        return .part (.node (.look width negated body))
      | .given group =>
        let yes := Node.ofList (← sequence (depth + 1) verbose false [] fuel)
        if ← accept '|' then
          let no := Node.ofList (← sequence (depth + 1) verbose false [] fuel)
          if (← peek) == some (.char '|') then fail .tooManyBranches
          expectClose
          return .part (.node (.given group yes no))
        expectClose
        return .part (.node (.given group yes .empty))

end

end Reading

end PathPolicy.Regex
