import PathPolicy.Regex.Flags

/-! Expressions, and the least and greatest number of characters that one matches. -/

namespace PathPolicy.Regex

inductive CategoryKind where
  | digit
  | space
  | word
  deriving Repr, DecidableEq

/-- The characters of a kind, or all others. -/
structure Category where
  kind : CategoryKind
  negated : Bool
  deriving Repr, DecidableEq

inductive ClassItem where
  | char (code : Nat)
  | range (lo hi : Nat)
  | category (c : Category)
  deriving Repr, DecidableEq

inductive Anchor where
  | textStart
  | textEnd
  | lineStart
  | lineEnd
  | boundary
  | notBoundary
  deriving Repr, DecidableEq

inductive Greed where
  | greedy
  | lazy
  | possessive
  deriving Repr, DecidableEq

/-- Least and greatest width. -/
structure Width where
  least : Nat
  most : Nat
  deriving Repr, DecidableEq

/-- `loop` repeats its body from `least` up to `most` times, without end if `most` is
absent. `look` is about the text after the place where it stands or, with a width,
about the text of that width before it. `given` chooses by whether a group was set. -/
inductive Node where
  | empty
  | char (code : Nat)
  | notChar (code : Nat)
  | any
  | oneOf (negated : Bool) (items : List ClassItem)
  | anchor (a : Anchor)
  | backref (group : Nat)
  | cat (first rest : Node)
  | alt (left right : Node)
  | group (index : Option Nat) (scope : Scope) (body : Node)
  | atomic (body : Node)
  | loop (greed : Greed) (least : Nat) (most : Option Nat) (body : Node)
  | look (behind : Option Width) (negated : Bool) (body : Node)
  | given (group : Nat) (yes no : Node)
  deriving Repr, DecidableEq

namespace Node

/-- An expression that matches one character or looks at one place. -/
def isAtom : Node → Bool
  | char _ => true
  | notChar _ => true
  | any => true
  | .oneOf _ _ => true
  | anchor _ => true
  | backref _ => true
  | _ => false

def isAnchor : Node → Bool
  | anchor _ => true
  | _ => false

def isLoop : Node → Bool
  | loop _ _ _ _ => true
  | _ => false

def ofList : List Node → Node
  | [] => empty
  | [n] => n
  | n :: rest => cat n (ofList rest)

def ofBranches : List Node → Node
  | [] => empty
  | [n] => n
  | n :: rest => alt n (ofBranches rest)

/-- Widths are counted up to this one. -/
def widest : Nat := 0x10000000000000000

/-- `groups` holds the widths of the groups that are closed, by number. -/
def widthIn (groups : List (Nat × Width)) : Node → Width
  | empty => ⟨0, 0⟩
  | char _ => ⟨1, 1⟩
  | notChar _ => ⟨1, 1⟩
  | any => ⟨1, 1⟩
  | .oneOf _ _ => ⟨1, 1⟩
  | anchor _ => ⟨0, 0⟩
  | backref g => (groups.lookup g).getD ⟨0, 0⟩
  | cat a b =>
    let x := widthIn groups a
    let y := widthIn groups b
    ⟨min (x.least + y.least) widest, min (x.most + y.most) widest⟩
  | alt a b =>
    let x := widthIn groups a
    let y := widthIn groups b
    ⟨min x.least y.least, max x.most y.most⟩
  | group _ _ body => widthIn groups body
  | atomic body => widthIn groups body
  | loop _ least most body =>
    let x := widthIn groups body
    let top :=
      match most with
      | some n => x.most * n
      | none => if x.most = 0 then 0 else widest
    ⟨min (x.least * least) widest, min top widest⟩
  | look _ _ _ => ⟨0, 0⟩
  | given _ yes no =>
    let x := widthIn groups yes
    let y := widthIn groups no
    ⟨min x.least y.least, max x.most y.most⟩

end Node

end PathPolicy.Regex
