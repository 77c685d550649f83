import PathPolicy.Number.Reading
import PathPolicy.Text.Utf8

/-! JSON documents are recognised, not built. Each function takes what it recognises
off the front of the text and returns the rest. Beside the standard grammar, the
words for not-a-number and the infinities are values, and an integer without fraction
and exponent is at most as long as integers may be. -/

namespace PathPolicy.Json

inductive Refusal where
  | malformed
  | tooDeep
  deriving Repr, DecidableEq

abbrev Rest := Except Refusal (List Char)

def isBlank (c : Char) : Bool := c = ' ' || c = '\t' || c = '\n' || c = '\r'

def skipBlanks (cs : List Char) : List Char := cs.dropWhile isBlank

def isHex (c : Char) : Bool :=
  c.isDigit || ('a' ≤ c && c ≤ 'f') || ('A' ≤ c && c ≤ 'F')

/-- Characters that may follow a backslash, other than the `u` of a code. -/
def isEscapable (c : Char) : Bool :=
  ['"', '\\', '/', 'b', 'f', 'n', 'r', 't'].contains c

/-- The text after a string whose opening quote was taken. -/
def string : List Char → Rest
  | [] => .error .malformed
  | c :: r =>
    if c = '"' then .ok r
    else if c.toNat < 0x20 then .error .malformed
    else if c = '\\' then
      match r with
      | 'u' :: a :: b :: d :: e :: t =>
        if isHex a && isHex b && isHex d && isHex e then string t else .error .malformed
      | e :: t => if isEscapable e then string t else .error .malformed
      | [] => .error .malformed
    else string r

/-- The rest after a word that the text begins with. -/
def word? (word : String) (cs : List Char) : Option (List Char) :=
  if word.toList.isPrefixOf cs then some (cs.drop word.length) else none

def words : List String := ["null", "true", "false", "NaN", "Infinity", "-Infinity"]

def digits (cs : List Char) : List Char × List Char :=
  (cs.takeWhile Char.isDigit, cs.dropWhile Char.isDigit)

/-- A point and at least one digit, if they come next. -/
def fraction? : List Char → Option (List Char)
  | '.' :: r => if (digits r).1.isEmpty then none else some (digits r).2
  | _ => none

def dropSign : List Char → List Char
  | '+' :: r => r
  | '-' :: r => r
  | cs => cs

/-- An exponent with at least one digit, if it comes next. -/
def exponent? : List Char → Option (List Char)
  | c :: r =>
    if c = 'e' || c = 'E' then
      let d := digits (dropSign r)
      if d.1.isEmpty then none else some d.2
    else none
  | [] => none

/-- The digits before the point: a zero alone, or digits that begin with no zero. -/
def whole? (cs : List Char) : Option (List Char × List Char) :=
  match cs with
  | '0' :: r => some (['0'], r)
  | c :: _ => if c.isDigit then some (digits cs) else none
  | [] => none

def number (cs : List Char) : Rest :=
  let body :=
    match cs with
    | '-' :: r => r
    | _ => cs
  match whole? body with
  | none => .error .malformed
  | some (ds, r) =>
    match fraction? r with
    | some r => .ok ((exponent? r).getD r)
    | none =>
      match exponent? r with
      | some r => .ok r
      | none => if Number.longestInteger < ds.length then .error .malformed else .ok r

/-- A value that holds no other value. -/
def scalar (cs : List Char) : Rest :=
  match cs with
  | '"' :: r => string r
  | _ =>
    match words.findSome? (word? · cs) with
    | some r => .ok r
    | none => number cs

/-- A string, a colon and an item. -/
def member (item : List Char → Rest) (cs : List Char) : Rest :=
  match cs with
  | '"' :: r =>
    match string r with
    | .error e => .error e
    | .ok r =>
      match skipBlanks r with
      | ':' :: t => item (skipBlanks t)
      | _ => .error .malformed
  | _ => .error .malformed

/-- Items up to the closing sign, with commas between them. -/
def items (item : List Char → Rest) (closing : Char) : Nat → List Char → Rest
  | 0, _ => .error .malformed
  | fuel + 1, cs =>
    match item cs with
    | .error e => .error e
    | .ok r =>
      match skipBlanks r with
      | [] => .error .malformed
      | c :: t =>
        if c = closing then .ok t
        else if c = ',' then items item closing fuel (skipBlanks t)
        else .error .malformed

/-- What follows an opening sign. -/
def container (item : List Char → Rest) (closing : Char) (size : Nat) (cs : List Char) : Rest :=
  let t := skipBlanks cs
  if t.head? = some closing then .ok t.tail else items item closing size t

/-- A value with at most `room` brackets open at once. `size` bounds the number of
items of one array or object. -/
def value (size : Nat) : Nat → List Char → Rest
  | 0, cs =>
    match cs with
    | '[' :: _ => .error .tooDeep
    | '\x7b' :: _ => .error .tooDeep
    | _ => scalar cs
  | room + 1, cs =>
    match cs with
    | '[' :: r => container (value size room) ']' size r
    | '\x7b' :: r => container (member (value size room)) '\x7d' size r
    | _ => scalar cs

def text (room : Nat) (cs : List Char) : Except Refusal Unit :=
  match value cs.length room (skipBlanks cs) with
  | .error e => .error e
  | .ok r => if (skipBlanks r).isEmpty then .ok () else .error .malformed

/-- One value in strict UTF-8 with blanks around it. -/
def document (room : Nat) (bytes : List UInt8) : Except Refusal Unit :=
  match Text.Utf8.decode bytes with
  | .error _ => .error .malformed
  | .ok cs => text room cs

end PathPolicy.Json
