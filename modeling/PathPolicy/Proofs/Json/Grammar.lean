import PathPolicy.Json.Acceptor
import Mathlib

/-! The grammar of JSON texts, and how many arrays and objects a text has open at once. The
grammar is the standard one with the words for not-a-number and the infinities, and without
integers that are longer than integers may be. -/

namespace PathPolicy.Json

def Blanks (cs : List Char) : Prop := ∀ c ∈ cs, isBlank c = true

theorem blanks_nil : Blanks [] := by simp [Blanks]

theorem Blanks.append {b b' : List Char} (h : Blanks b) (h' : Blanks b') : Blanks (b ++ b') :=
  fun c hc => (List.mem_append.1 hc).elim (h c) (h' c)

/-! Strings. -/

/-- What is between the quotes. The codes of an escape need not name a character. -/
inductive StringBody : List Char → Prop
  | nil : StringBody []
  | plain {c : Char} {cs : List Char} :
    c ≠ '"' → c ≠ '\\' → 0x20 ≤ c.toNat → StringBody cs → StringBody (c :: cs)
  | escape {c : Char} {cs : List Char} :
    isEscapable c = true → StringBody cs → StringBody ('\\' :: c :: cs)
  | code {a b c d : Char} {cs : List Char} :
    isHex a = true → isHex b = true → isHex c = true → isHex d = true → StringBody cs →
      StringBody ('\\' :: 'u' :: a :: b :: c :: d :: cs)

inductive StringText : List Char → Prop
  | quoted {cs : List Char} : StringBody cs → StringText ('"' :: (cs ++ ['"']))

/-! Numbers. -/

structure Digits (cs : List Char) : Prop where
  notEmpty : cs ≠ []
  digits : ∀ c ∈ cs, c.isDigit = true

/-- No digits follow a zero at the front. -/
inductive Integer : List Char → Prop
  | zero : Integer ['0']
  | digits {c : Char} {cs : List Char} :
    c ≠ '0' → c.isDigit = true → (∀ d ∈ cs, d.isDigit = true) → Integer (c :: cs)

inductive Fraction : List Char → Prop
  | none : Fraction []
  | digits {cs : List Char} : Digits cs → Fraction ('.' :: cs)

inductive Exponent : List Char → Prop
  | none : Exponent []
  | digits {mark : Char} {sign cs : List Char} :
    mark = 'e' ∨ mark = 'E' → sign ∈ [[], ['+'], ['-']] → Digits cs → Exponent (mark :: (sign ++ cs))

/-- Only an integer has to be short. -/
inductive NumberText : List Char → Prop
  | parts {sign whole fraction exponent : List Char} :
    sign ∈ [[], ['-']] → Integer whole → Fraction fraction → Exponent exponent →
      (fraction = [] → exponent = [] → whole.length ≤ Number.longestInteger) →
        NumberText (sign ++ (whole ++ (fraction ++ exponent)))

/-! Values. -/

inductive Container where
  | array
  | object
  deriving DecidableEq

namespace Container

def opening : Container → Char
  | array => '['
  | object => '\x7b'

def closing : Container → Char
  | array => ']'
  | object => '\x7d'

end Container

/-- A value, an item of a container with blanks around it, or items with commas between. -/
inductive Form where
  | value
  | item (c : Container)
  | items (c : Container)

inductive Derives : Form → List Char → Prop
  | word {w : String} : w ∈ ["null", "true", "false", "NaN", "Infinity", "-Infinity"] →
    Derives .value w.toList
  | string {cs : List Char} : StringText cs → Derives .value cs
  | number {cs : List Char} : NumberText cs → Derives .value cs
  | empty {b : List Char} (c : Container) : Blanks b →
    Derives .value (c.opening :: (b ++ [c.closing]))
  | container {cs : List Char} (c : Container) : Derives (.items c) cs →
    Derives .value (c.opening :: (cs ++ [c.closing]))
  | element {b v b' : List Char} : Blanks b → Derives .value v → Blanks b' →
    Derives (.item .array) (b ++ (v ++ b'))
  | member {b k b' cs : List Char} : Blanks b → StringText k → Blanks b' →
    Derives (.item .array) cs → Derives (.item .object) (b ++ (k ++ (b' ++ ':' :: cs)))
  | last {cs : List Char} {c : Container} : Derives (.item c) cs → Derives (.items c) cs
  | more {cs cs' : List Char} {c : Container} : Derives (.item c) cs → Derives (.items c) cs' →
    Derives (.items c) (cs ++ ',' :: cs')

/-- One value with blanks around it. -/
def Document (cs : List Char) : Prop := Derives (.item .array) cs

/-! Nesting. -/

/-- Complete items, each with a comma after it. -/
inductive Passed (c : Container) : List Char → Prop
  | nil : Passed c []
  | item {cs cs' : List Char} : Derives (.item c) cs → Passed c cs' → Passed c (cs ++ ',' :: cs')

/-- What stands in an open container before the value of an item. -/
inductive Within : Container → List Char → Prop
  | element {cs : List Char} : Passed .array cs → Within .array cs
  | member {cs b k b' : List Char} : Passed .object cs → Blanks b → StringText k → Blanks b' →
    Within .object (cs ++ (b ++ (k ++ (b' ++ [':']))))

/-- Going through the text from the front, there is a place where `n` containers are open at
once. Nothing is asked of the text after that place. -/
inductive Opens : Nat → List Char → Prop
  | one {b cs : List Char} (c : Container) : Blanks b → Opens 1 (b ++ c.opening :: cs)
  | inside {n : Nat} {b before cs : List Char} (c : Container) : Blanks b → Within c before →
    Opens n cs → Opens (n + 1) (b ++ c.opening :: (before ++ cs))

theorem Opens.of_le {m n : Nat} {cs : List Char} (h : Opens n cs) (hm : 1 ≤ m) (hle : m ≤ n) :
    Opens m cs := by
  induction h generalizing m with
  | one c hb =>
    obtain rfl : m = 1 := by omega
    exact .one c hb
  | @inside n b before cs c hb hbefore _ ih =>
    obtain _ | _ | m := m
    · omega
    · exact .one c hb
    · exact .inside c hb hbefore (ih (by omega) (by omega))

theorem Opens.le_length {n : Nat} {cs : List Char} (h : Opens n cs) : n ≤ cs.length := by
  induction h with
  | one c _ =>
    simp only [List.length_append, List.length_cons]
    omega
  | inside c _ _ _ ih =>
    simp only [List.length_append, List.length_cons]
    omega

theorem Opens.blanks {n : Nat} {b cs : List Char} (hb : Blanks b) (h : Opens n cs) :
    Opens n (b ++ cs) := by
  cases h with
  | one c hb' =>
    rw [← List.append_assoc]
    exact .one c (hb.append hb')
  | inside c hb' hbefore h =>
    rw [← List.append_assoc]
    exact .inside c (hb.append hb') hbefore h

end PathPolicy.Json
