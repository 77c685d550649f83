import PathPolicy.Regex.CharClass

/-! Matching by trying. An expression is run at a place in the text with what is to
be matched after it; the first way to succeed counts. Optional rounds of a loop go on
only while they use up text. -/

namespace PathPolicy.Regex

/-- Where a group began or ended, by the text that was left. -/
structure Marks where
  starts : List (Nat × List Char) := []
  ends : List (Nat × List Char) := []

/-- The text that a group matched last; none while it has ended no later than it
began anew. -/
def Marks.captured? (m : Marks) (group : Nat) : Option (List Char) :=
  match m.starts.lookup group, m.ends.lookup group with
  | some s, some e => if e.length ≤ s.length then some (s.take (s.length - e.length)) else none
  | _, _ => none

/-- A place in the text: what was passed, nearest first, and what is left. -/
structure Spot where
  before : List Char
  rest : List Char
  marks : Marks := {}

namespace Spot

def begin? (s : Spot) (group : Option Nat) : Spot :=
  match group with
  | some g => { s with marks := { s.marks with starts := (g, s.rest) :: s.marks.starts } }
  | none => s

def finish? (s : Spot) (group : Option Nat) : Spot :=
  match group with
  | some g => { s with marks := { s.marks with ends := (g, s.rest) :: s.marks.ends } }
  | none => s

/-- Passes one character that is accepted. -/
def pass? (accepts : Nat → Bool) (s : Spot) : Option Spot :=
  match s.rest with
  | c :: rest =>
    if accepts c.toNat then some { s with before := c :: s.before, rest := rest } else none
  | [] => none

/-- Passes the given text. -/
def passText? (m : Mode) : List Char → Spot → Option Spot
  | [], s => some s
  | c :: more, s =>
    let accepts n := if m.ignoreCase then m.lower n == m.lower c.toNat else n == c.toNat
    (s.pass? accepts).bind (passText? m more)

/-- Moves back over `n` characters. -/
def back? (n : Nat) (s : Spot) : Option Spot :=
  if s.before.length < n then none
  else
    some { s with
      before := s.before.drop n
      rest := (s.before.take n).reverse ++ s.rest }

def wordBefore (ascii : Bool) (s : Spot) : Bool :=
  match s.before with
  | c :: _ => CategoryKind.word.holds ascii c.toNat
  | [] => false

def wordAfter (ascii : Bool) (s : Spot) : Bool :=
  match s.rest with
  | c :: _ => CategoryKind.word.holds ascii c.toNat
  | [] => false

/-- An empty text has neither kind of boundary. -/
def satisfies (m : Mode) (a : Anchor) (s : Spot) : Bool :=
  let isNewline : Option Char → Bool := (· == some '\n')
  match a with
  | .textStart => s.before.isEmpty
  | .textEnd => s.rest.isEmpty
  | .lineStart => s.before.isEmpty || (m.multiline && isNewline s.before.head?)
  | .lineEnd =>
    s.rest.isEmpty || (isNewline s.rest.head? && (m.multiline || s.rest.length == 1))
  | .boundary =>
    !(s.before.isEmpty && s.rest.isEmpty) && s.wordBefore m.ascii != s.wordAfter m.ascii
  | .notBoundary =>
    !(s.before.isEmpty && s.rest.isEmpty) && s.wordBefore m.ascii == s.wordAfter m.ascii

end Spot

/-- What is to be matched from a place on. -/
abbrev Next := Spot → Option Spot

/-- A part of an expression, told what comes after it. -/
abbrev Matcher := Next → Next

namespace Matcher

def orElse (a b : Matcher) : Matcher := fun next s =>
  match a next s with
  | some r => some r
  | none => b next s

/-- Exactly `n` rounds. -/
def times (body : Matcher) : Nat → Matcher
  | 0 => fun next => next
  | n + 1 => fun next s => body (fun t => times body n next t) s

/-- The end of rounds. -/
def fewer : Option Nat → Option Nat := Option.map (· - 1)

/-- More rounds if possible. A round that used up no text is the last. -/
def greedy (body : Matcher) (next : Next) (most : Option Nat) (s : Spot) : Option Spot :=
  if most = some 0 then next s
  else
    match body (fun t =>
      if _h : t.rest.length < s.rest.length then greedy body next (fewer most) t
      else next t) s with
    | some r => some r
    | none => next s
termination_by s.rest.length

/-- More rounds if needed. -/
def lazy (body : Matcher) (next : Next) (most : Option Nat) (s : Spot) : Option Spot :=
  match next s with
  | some r => some r
  | none =>
    if most = some 0 then none
    else
      body (fun t =>
        if _h : t.rest.length < s.rest.length then lazy body next (fewer most) t
        else next t) s
termination_by s.rest.length

/-- Where the rounds end that are never given back. -/
def exhaust (body : Matcher) (most : Option Nat) (s : Spot) : Spot :=
  if most = some 0 then s
  else
    match body some s with
    | some t => if _h : t.rest.length < s.rest.length then exhaust body (fewer most) t else t
    | none => s
termination_by s.rest.length

/-- Exactly `n` rounds that are never given back. -/
def insist (body : Matcher) : Nat → Next
  | 0 => some
  | n + 1 => fun s => (body some s).bind (insist body n)

def loop (greed : Greed) (least : Nat) (most : Option Nat) (body : Matcher) : Matcher :=
  fun next =>
    let extra := most.map (· - least)
    match greed with
    | .greedy => times body least (greedy body next extra)
    | .lazy => times body least (lazy body next extra)
    | .possessive => fun s => (insist body least s).bind fun t => next (exhaust body extra t)

end Matcher

def Node.run (m : Mode) : Node → Matcher
  | .empty => fun next => next
  | .char code => fun next s => (s.pass? (charHolds m code)).bind next
  | .notChar code => fun next s => (s.pass? fun n => !charHolds m code n).bind next
  | .any => fun next s => (s.pass? fun n => m.dotAll || n != 0x0A).bind next
  | .oneOf negated items => fun next s =>
    (s.pass? fun n => classHolds m items n != negated).bind next
  | .anchor a => fun next s => if s.satisfies m a then next s else none
  | .backref g => fun next s =>
    ((s.marks.captured? g).bind fun text => s.passText? m text).bind next
  | .cat a b => fun next => a.run m (b.run m next)
  | .alt a b => Matcher.orElse (a.run m) (b.run m)
  | .group index scope body => fun next s =>
    body.run (scope.enter m) (fun t => next (t.finish? index)) (s.begin? index)
  | .atomic body => fun next s => (body.run m some s).bind next
  | .loop greed least most body => Matcher.loop greed least most (body.run m)
  | .look behind negated body => fun next s =>
    let start? :=
      match behind with
      | some width => s.back? width.least
      | none => some s
    match start?.bind (body.run m some) with
    | some t => if negated then none else next { s with marks := t.marks }
    | none => if negated then next s else none
  | .given g yes no => fun next s =>
    if (s.marks.captured? g).isSome then yes.run m next s else no.run m next s

/-- The whole text is matched. -/
def Node.matchesAll (m : Mode) (n : Node) (text : List Char) : Bool :=
  (n.run m (fun s => if s.rest.isEmpty then some s else none) ⟨[], text, {}⟩).isSome

end PathPolicy.Regex
