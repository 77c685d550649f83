import PathPolicy.Regex.Reading
import PathPolicy.Regex.Match

/-! Expressions ready for matching. The flags of a program are those it was given,
those its text turns on for all of it, and the alphabet: Unicode unless ASCII was
asked for. -/

namespace PathPolicy.Regex

structure Program where
  flags : Flags
  groups : Nat
  node : Node
  deriving Repr, DecidableEq

/-- The reason why the first part that is at fault cannot be used: a lookbehind without a
fixed width, or a repeat in a template. -/
def Node.fault? (template : Bool) : Node → Option Malformed
  | .cat a b => (fault? template a).or (fault? template b)
  | .alt a b => (fault? template a).or (fault? template b)
  | .group _ _ body => fault? template body
  | .atomic body => fault? template body
  | .loop _ _ _ body => if template then some .repeatInTemplate else fault? template body
  | .look behind _ body =>
    let own : Option Malformed :=
      match behind with
      | none => none
      | some w =>
        if 0x100000000 ≤ w.least then some .lookbehindTooLong
        else if w.least ≠ w.most then some .lookbehindNotFixed
        else none
    own.or (fault? template body)
  | .given _ yes no => (fault? template yes).or (fault? template no)
  | _ => none

/-- A lookbehind is wider than a program can hold. -/
def Node.hasWideLookbehind : Node → Bool
  | .cat a b => hasWideLookbehind a || hasWideLookbehind b
  | .alt a b => hasWideLookbehind a || hasWideLookbehind b
  | .group _ _ body => hasWideLookbehind body
  | .atomic body => hasWideLookbehind body
  | .loop _ _ _ body => hasWideLookbehind body
  | .look behind _ body => behind.any (0x80000000 ≤ ·.least) || hasWideLookbehind body
  | .given _ yes no => hasWideLookbehind yes || hasWideLookbehind no
  | _ => false

/-- The flags with the alphabet settled. -/
def Flags.settle (w : Flags) : Except Fault Flags :=
  if w.has .locale then .error .localeFlag
  else if !w.has .ascii then .ok (w.add .unicode)
  else if w.has .unicode then .error .asciiAndUnicode
  else .ok w

/-- Reads a whole expression and the flags that hold for all of it. -/
def readAll [CharacterNames] : Reading Program := do
  Reading.advance
  let s ← get
  let fuel := 3 * s.rest.length + 8
  let node := Node.ofList (← Reading.alternation 0 (s.flags.has .verbose) [] fuel)
  let s ← get
  let flags ← s.flags.settle
  if s.next.isSome then Reading.fail .unbalancedParenthesis
  let groups := Reading.groupCount s
  if s.conditions.any (groups ≤ ·) then Reading.fail .unknownGroup
  return ⟨flags, groups - 1, node⟩

def read [CharacterNames] (source : String) (flags : Flags) : Except Fault Program :=
  (readAll.run { next := none, rest := source.toList, flags := flags }).map (·.1)

/-- The checks that follow the reading. -/
def Program.check (p : Program) : Except Fault Program :=
  match p.node.fault? (p.flags.has .template) with
  | some reason => .error (.malformed reason)
  | none =>
    if !p.flags.fits then .error .flagsOutOfRange
    else if p.node.hasWideLookbehind then .error .lookbehindTooWide
    else .ok p

def compile [CharacterNames] (source : String) (flags : Flags) : Except Fault Program :=
  (read source flags).bind Program.check

namespace Program

/-- The whole path is matched. -/
def fullMatch (p : Program) (path : String) : Bool := p.node.matchesAll p.flags.mode path.toList

end Program

end PathPolicy.Regex
