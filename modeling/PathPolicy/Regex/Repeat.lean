import PathPolicy.Regex.Escape

/-! Signs for repeats, and what they repeat. -/

namespace PathPolicy.Regex

namespace Reading

def repeatLimit : Nat := 4294967295

/-- A count in braces. -/
def count (digits : List Char) : Reading Nat := do
  if Number.longestInteger < digits.length then throw (.integerTooLong digits.length)
  let n := digitsValue 10 digits
  if repeatLimit ≤ n then throw .repeatTooLarge
  return n

/-- The bounds after an opening brace; none if it is no repeat, and then nothing has
been taken. -/
def braces? : Reading (Option (Nat × Option Nat)) := do
  let start ← get
  if (← peek) == some (.char '\x7d') then return none
  let room := start.rest.length + 1
  let lo ← takeWhile Char.isDigit room
  let hi ← if ← accept ',' then takeWhile Char.isDigit room else pure lo
  if !(← accept '\x7d') then
    set start
    return none
  let least ← if lo.isEmpty then pure 0 else count lo
  if hi.isEmpty then return some (least, none)
  let most ← count hi
  if most < least then fail .repeatBoundsSwapped
  return some (least, some most)

/-- The bounds that a repeat sign asks for. -/
def bounds? (sign : Char) : Reading (Option (Nat × Option Nat)) :=
  if sign = '?' then return some (0, some 1)
  else if sign = '*' then return some (0, none)
  else if sign = '+' then return some (1, none)
  else braces?

def greed : Reading Greed := do
  if ← accept '?' then return .lazy
  if ← accept '+' then return .possessive
  return .greedy

/-- A group that neither captures nor sets flags is kept as its parts until it is
known whether it is repeated. -/
inductive Piece where
  | node (n : Node)
  | inlined (parts : List Node)

namespace Piece

def parts : Piece → List Node
  | node n => [n]
  | inlined ns => ns

/-- The node to repeat. -/
def repeated (p : Piece) : Reading Node :=
  match p with
  | node n =>
    if n.isAnchor then fail .nothingToRepeat
    else if n.isLoop then fail .repeatedTwice
    else return n
  | inlined ns => return Node.ofList ns

end Piece

end Reading

end PathPolicy.Regex
