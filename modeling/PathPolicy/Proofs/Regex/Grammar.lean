import PathPolicy.Proofs.Regex.Language
import PathPolicy.Regex.Reading

/-! How regular expressions are written. `Spells` says which text is which expression, without
saying how the text is read: each rule takes a text to what is left after the expression.
The language of an expression forgets groups, names and whether rounds are lazy. -/

namespace PathPolicy.Regex

open scoped Computability

/-- The signs that stand for a number of rounds. Counts in braces are kept as they are
written; without a comma there is only one. -/
inductive Quantifier where
  | star
  | plus
  | optional
  | counted (lo : List Char) (hi : Option (List Char))

namespace Quantifier

def text : Quantifier → List Char
  | star => ['*']
  | plus => ['+']
  | optional => ['?']
  | counted lo none => '\x7b' :: (lo ++ ['\x7d'])
  | counted lo (some hi) => '\x7b' :: (lo ++ ',' :: (hi ++ ['\x7d']))

/-- The counts in braces. -/
def counts : Quantifier → List (List Char)
  | counted lo hi => lo :: hi.toList
  | _ => []

def least : Quantifier → Nat
  | star => 0
  | plus => 1
  | optional => 0
  | counted lo _ => Reading.digitsValue 10 lo

/-- A count that is left out is no bound. -/
def most : Quantifier → Option Nat
  | star => none
  | plus => none
  | optional => some 1
  | counted lo hi =>
    let written := hi.getD lo
    if written.isEmpty then none else some (Reading.digitsValue 10 written)

/-- The braces hold counts, and at least a comma. -/
structure Written (q : Quantifier) : Prop where
  digits : ∀ ds ∈ q.counts, ∀ c ∈ ds, c.isDigit = true
  notEmpty : q ≠ counted [] none

/-- The text of a bound is an integer that a repeat may have. -/
def Modest (q : Quantifier) : Prop :=
  ∀ ds ∈ q.counts, ds.length ≤ Number.longestInteger ∧
    Reading.digitsValue 10 ds < Reading.repeatLimit

end Quantifier

/-- How a group begins. -/
inductive Opening where
  | plain
  | capturing
  | named (name : List Char)

namespace Opening

def text : Opening → List Char
  | plain => ['(', '?', ':']
  | capturing => ['(']
  | named name => '(' :: '?' :: 'P' :: '<' :: (name ++ ['>'])

/-- The opening means itself before the text of its body. -/
def Fits : Opening → List Char → Prop
  | plain, _ => True
  | capturing, body => body.head? ≠ some '?'
  | named name, _ => Text.isIdentifier name = true

/-- The number of groups that it opens for capturing. -/
def captures : Opening → Nat
  | plain => 0
  | _ => 1

def names : Opening → List String
  | named name => [String.ofList name]
  | _ => []

end Opening

inductive Expr where
  | empty
  | char (code : Nat)
  | any
  | oneOf (negated : Bool) (items : List ClassItem)
  | cat (first rest : Expr)
  | alt (left right : Expr)
  | group (opening : Opening) (body : Expr)
  | loop (isLazy : Bool) (q : Quantifier) (body : Expr)

namespace Expr

/-- The words of an expression. A class stands for the characters that one of its items
holds, or for all others. -/
def language (dotAll : Bool) : Expr → Language Char
  | empty => 1
  | char code => one (· == code)
  | any => one fun n => dotAll || n != 0x0A
  | .oneOf negated items => one fun n => items.any (·.holds false n) != negated
  | cat a b => a.language dotAll * b.language dotAll
  | alt a b => a.language dotAll + b.language dotAll
  | group _ body => body.language dotAll
  | loop _ q body => rounds (body.language dotAll) q.least q.most

/-- The number of groups that capture. -/
def captures : Expr → Nat
  | cat a b => a.captures + b.captures
  | alt a b => a.captures + b.captures
  | group o body => o.captures + body.captures
  | loop _ _ body => body.captures
  | _ => 0

/-- The names of groups in the order of their openings. -/
def names : Expr → List String
  | cat a b => a.names ++ b.names
  | alt a b => a.names ++ b.names
  | group o body => o.names ++ body.names
  | loop _ _ body => body.names
  | _ => []

/-- All counts are ones that a repeat may have. -/
def ModestCounts : Expr → Prop
  | cat a b => a.ModestCounts ∧ b.ModestCounts
  | alt a b => a.ModestCounts ∧ b.ModestCounts
  | group _ body => body.ModestCounts
  | loop _ q body => q.Modest ∧ body.ModestCounts
  | _ => True

/-- The expression is inside the limits on counts and the number of groups. -/
structure Modest (e : Expr) : Prop where
  counts : e.ModestCounts
  captures : e.captures < Reading.largestGroup

end Expr

/-! Characters and classes. -/

section

variable [CharacterNames]

/-- Characters that mean something else than themselves outside a class. A brace may. -/
def isSpecial (c : Char) : Bool :=
  ['.', '^', '$', '*', '+', '?', '\x7b', '[', '\\', '|', '(', ')'].contains c

/-- Octal digits after a backslash, as many as there are up to three, for a code of one byte. -/
structure Octal (ds rest : List Char) : Prop where
  digits : ∀ c ∈ ds, Reading.isOctal c = true
  notEmpty : ds ≠ []
  complete : ds.length = 3 ∨ ds.length < 3 ∧ ∀ c ∈ rest.head?, Reading.isOctal c = false
  byte : Reading.digitsValue 8 ds ≤ 0o377

/-- What follows a backslash for a code point, inside and outside a class. -/
inductive EscapeText : Nat → List Char → List Char → Prop
  | control {c : Char} {code : Nat} (r : List Char) :
    Reading.control? c = some code → EscapeText code (c :: r) r
  | sign {c : Char} (r : List Char) :
    c.isDigit = false → Reading.isAsciiAlpha c = false → EscapeText c.toNat (c :: r) r
  | hex {mark : Char} {digits : List Char} (r : List Char) :
    (mark, digits.length) ∈ [('x', 2), ('u', 4), ('U', 8)] →
    (∀ c ∈ digits, Reading.isHex c = true) → Reading.digitsValue 16 digits ≤ 0x10FFFF →
      EscapeText (Reading.digitsValue 16 digits) (mark :: (digits ++ r)) r
  | named {name : List Char} {code : Nat} (r : List Char) :
    name ≠ [] → '\x7d' ∉ name → '\\' ∉ name → CharacterNames.codeOf? name = some code →
      EscapeText code ('N' :: '\x7b' :: (name ++ '\x7d' :: r)) r

/-- One item of a class that is no range. -/
inductive ItemText : ClassItem → List Char → List Char → Prop
  | raw {c : Char} (r : List Char) : c ≠ '\\' → ItemText (.char c.toNat) (c :: r) r
  | escape {code : Nat} {cs r : List Char} :
    EscapeText code cs r → ItemText (.char code) ('\\' :: cs) r
  | octal {ds r : List Char} :
    Octal ds r → ItemText (.char (Reading.digitsValue 8 ds)) ('\\' :: (ds ++ r)) r
  | category {c : Char} {kind : Category} (r : List Char) :
    Reading.category? c = some kind → ItemText (.category kind) ('\\' :: c :: r) r

/-- The items up to the closing bracket, which is an item itself if it comes first. A dash is
an item where it cannot stand between two. -/
inductive ClassText : (isFirst : Bool) → List ClassItem → List Char → List Char → Prop
  | done (r : List Char) : ClassText false [] (']' :: r) r
  | item {isFirst : Bool} {i : ClassItem} {items : List ClassItem} {cs r r' : List Char} :
    (isFirst = true ∨ cs.head? ≠ some ']') → ItemText i cs r → r.head? ≠ some '-' →
      ClassText false items r r' → ClassText isFirst (i :: items) cs r'
  | dash {isFirst : Bool} {i : ClassItem} {cs r : List Char} :
    (isFirst = true ∨ cs.head? ≠ some ']') → ItemText i cs ('-' :: ']' :: r) →
      ClassText isFirst [i, .char 0x2D] cs r
  | range {isFirst : Bool} {lo hi : Nat} {items : List ClassItem} {cs cs' r r' : List Char} :
    (isFirst = true ∨ cs.head? ≠ some ']') → ItemText (.char lo) cs ('-' :: cs') →
      cs'.head? ≠ some ']' → ItemText (.char hi) cs' r → lo ≤ hi →
      ClassText false items r r' → ClassText isFirst (.range lo hi :: items) cs r'

/-! Expressions. -/

/-- What a text is as a whole: a single character or group, this or rounds of it, one branch,
or branches. -/
inductive Level where
  | atom
  | piece
  | branch
  | branches

/-- `Spells level e cs r`: at the front of `cs` stands the expression `e`, and `r` is left. -/
inductive Spells : Level → Expr → List Char → List Char → Prop
  | char {c : Char} (r : List Char) : isSpecial c = false → Spells .atom (.char c.toNat) (c :: r) r
  | brace {r : List Char} :
    (∀ (q : Quantifier) (r' : List Char), q.Written → '\x7b' :: r ≠ q.text ++ r') →
      Spells .atom (.char 0x7B) ('\x7b' :: r) r
  | escape {code : Nat} {cs r : List Char} :
    EscapeText code cs r → cs.head? ≠ some 'b' → Spells .atom (.char code) ('\\' :: cs) r
  | octal {ds r : List Char} :
    Octal ds r → (ds.length = 3 ∨ ds.head? = some '0') →
      Spells .atom (.char (Reading.digitsValue 8 ds)) ('\\' :: (ds ++ r)) r
  | category {c : Char} {kind : Category} (r : List Char) :
    Reading.category? c = some kind →
      Spells .atom (.oneOf false [.category kind]) ('\\' :: c :: r) r
  | any (r : List Char) : Spells .atom .any ('.' :: r) r
  | oneOf {items : List ClassItem} {cs r : List Char} :
    ClassText true items cs r → cs.head? ≠ some '^' → Spells .atom (.oneOf false items) ('[' :: cs) r
  | notOneOf {items : List ClassItem} {cs r : List Char} :
    ClassText true items cs r → Spells .atom (.oneOf true items) ('[' :: '^' :: cs) r
  | group {e : Expr} {cs r : List Char} (o : Opening) :
    o.Fits cs → Spells .branches e cs (')' :: r) → Spells .atom (.group o e) (o.text ++ cs) r
  | once {e : Expr} {cs r : List Char} : Spells .atom e cs r → Spells .piece e cs r
  | greedy {e : Expr} {q : Quantifier} {cs r : List Char} :
    q.Written → (∀ top ∈ q.most, q.least ≤ top) → r.head? ≠ some '?' → r.head? ≠ some '+' →
      Spells .atom e cs (q.text ++ r) → Spells .piece (.loop false q e) cs r
  | lazy {e : Expr} {q : Quantifier} {cs r : List Char} :
    q.Written → (∀ top ∈ q.most, q.least ≤ top) →
      Spells .atom e cs (q.text ++ '?' :: r) → Spells .piece (.loop true q e) cs r
  | nil (r : List Char) : Spells .branch .empty r r
  | cons {a b : Expr} {cs r r' : List Char} :
    Spells .piece a cs r → Spells .branch b r r' → Spells .branch (.cat a b) cs r'
  | last {e : Expr} {cs r : List Char} : Spells .branch e cs r → Spells .branches e cs r
  | or {a b : Expr} {cs r r' : List Char} :
    Spells .branch a cs ('|' :: r) → Spells .branches b r r' → Spells .branches (.alt a b) cs r'

/-- The source is the whole text of the expression, in which no name is given to two groups. -/
structure Expr.WrittenAs (e : Expr) (source : String) : Prop where
  spells : Spells .branches e source.toList []
  names : e.names.Nodup

end

/-! Rearranging. -/

/-- The expressions differ in the order of alternatives and in which rounds are lazy. -/
inductive Expr.Rearranged : Expr → Expr → Prop
  | refl (e : Expr) : Rearranged e e
  | symm {e f : Expr} : Rearranged e f → Rearranged f e
  | trans {e f g : Expr} : Rearranged e f → Rearranged f g → Rearranged e g
  | swap (a b : Expr) : Rearranged (.alt a b) (.alt b a)
  | regroup (a b c : Expr) : Rearranged (.alt (.alt a b) c) (.alt a (.alt b c))
  | turn (isLazy : Bool) (q : Quantifier) (e : Expr) :
    Rearranged (.loop isLazy q e) (.loop (!isLazy) q e)
  | cat {a b a' b' : Expr} :
    Rearranged a a' → Rearranged b b' → Rearranged (.cat a b) (.cat a' b')
  | alt {a b a' b' : Expr} :
    Rearranged a a' → Rearranged b b' → Rearranged (.alt a b) (.alt a' b')
  | group {e f : Expr} (o : Opening) : Rearranged e f → Rearranged (.group o e) (.group o f)
  | loop {e f : Expr} (isLazy : Bool) (q : Quantifier) :
    Rearranged e f → Rearranged (.loop isLazy q e) (.loop isLazy q f)

namespace Expr.Rearranged

variable {e f : Expr}

theorem language (h : e.Rearranged f) (dotAll : Bool) :
    e.language dotAll = f.language dotAll := by
  induction h with
  | refl _ => rfl
  | symm _ ih => exact ih.symm
  | trans _ _ ih₁ ih₂ => exact ih₁.trans ih₂
  | swap a b => exact add_comm _ _
  | regroup a b c => exact add_assoc _ _ _
  | turn isLazy q e => rfl
  | cat _ _ iha ihb => exact congrArg₂ (· * ·) iha ihb
  | alt _ _ iha ihb => exact congrArg₂ (· + ·) iha ihb
  | group o _ ih => exact ih
  | loop isLazy q _ ih => exact congrArg (rounds · q.least q.most) ih

theorem names (h : e.Rearranged f) : e.names.Perm f.names := by
  induction h with
  | refl _ => exact .refl _
  | symm _ ih => exact ih.symm
  | trans _ _ ih₁ ih₂ => exact ih₁.trans ih₂
  | swap a b => exact List.perm_append_comm
  | regroup a b c => exact .of_eq (List.append_assoc _ _ _)
  | turn isLazy q e => exact .refl _
  | cat _ _ iha ihb => exact iha.append ihb
  | alt _ _ iha ihb => exact iha.append ihb
  | group o _ ih => exact ih.append_left _
  | loop isLazy q _ ih => exact ih

theorem captures (h : e.Rearranged f) : e.captures = f.captures := by
  induction h with
  | refl _ => rfl
  | symm _ ih => exact ih.symm
  | trans _ _ ih₁ ih₂ => exact ih₁.trans ih₂
  | swap a b => exact Nat.add_comm _ _
  | regroup a b c => exact Nat.add_assoc _ _ _
  | turn isLazy q e => rfl
  | cat _ _ iha ihb => exact congrArg₂ (· + ·) iha ihb
  | alt _ _ iha ihb => exact congrArg₂ (· + ·) iha ihb
  | group o _ ih => exact congrArg (o.captures + ·) ih
  | loop isLazy q _ ih => exact ih

theorem modestCounts (h : e.Rearranged f) : e.ModestCounts ↔ f.ModestCounts := by
  induction h with
  | refl _ => rfl
  | symm _ ih => exact ih.symm
  | trans _ _ ih₁ ih₂ => exact ih₁.trans ih₂
  | swap a b => exact and_comm
  | regroup a b c => exact and_assoc
  | turn isLazy q e => rfl
  | cat _ _ iha ihb => exact and_congr iha ihb
  | alt _ _ iha ihb => exact and_congr iha ihb
  | group o _ ih => exact ih
  | loop isLazy q _ ih => exact and_congr_right fun _ => ih

theorem modest (h : e.Rearranged f) (he : e.Modest) : f.Modest :=
  ⟨h.modestCounts.1 he.counts, h.captures ▸ he.captures⟩

end Expr.Rearranged

end PathPolicy.Regex
