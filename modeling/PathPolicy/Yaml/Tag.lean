import PathPolicy.Yaml.Cursor
import PathPolicy.Number.Reading

/-! Tags say what a node stands for. A text without quotes has a tag by its form. -/

namespace PathPolicy.Yaml

inductive Tag where
  | null
  | bool
  | int
  | float
  | binary
  | timestamp
  | omap
  | pairs
  | set
  | str
  | seq
  | map
  | merge
  | value
  | other
  deriving Repr, DecidableEq

namespace Tag

/-- The words of the tags, all of which begin alike. -/
def ofWord (word : String) : Tag :=
  match word with
  | "null" => null
  | "bool" => bool
  | "int" => int
  | "float" => float
  | "binary" => binary
  | "timestamp" => timestamp
  | "omap" => omap
  | "pairs" => pairs
  | "set" => set
  | "str" => str
  | "seq" => seq
  | "map" => map
  | "merge" => merge
  | "value" => value
  | _ => other

def start : String := "tag:yaml.org,2002:"

def ofText (text : String) : Tag :=
  if start.toList.isPrefixOf text.toList then
    ofWord (String.ofList (text.toList.drop start.length))
  else other

end Tag

/-! The forms of texts. -/

namespace Form

def isNull (s : String) : Bool := ["", "~", "null", "Null", "NULL"].contains s

def isBool (s : String) : Bool :=
  ["yes", "Yes", "YES", "no", "No", "NO", "true", "True", "TRUE", "false", "False", "FALSE",
    "on", "On", "ON", "off", "Off", "OFF"].contains s

def dropSign (cs : List Char) : List Char := (Number.splitSign cs).2

def isDigitOrScore (c : Char) : Bool := c.isDigit || c = '_'

def isHexOrScore (c : Char) : Bool := isDigitOrScore c || "abcdefABCDEF".toList.contains c

def isOctalOrScore (c : Char) : Bool := ('0' ≤ c && c ≤ '7') || c = '_'

def isBinaryOrScore (c : Char) : Bool := c = '0' || c = '1' || c = '_'

def allAndSome (p : Char → Bool) (cs : List Char) : Bool := !cs.isEmpty && cs.all p

/-- Text between colons. -/
def parts (cs : List Char) : List (List Char) := cs.splitOn ':'

/-- A number below sixty, with one digit or two. -/
def isSixtieth (cs : List Char) : Bool :=
  match cs with
  | [a] => a.isDigit
  | [a, b] => '0' ≤ a && a ≤ '5' && b.isDigit
  | _ => false

def isInt (s : String) : Bool :=
  let body := dropSign s.toList
  match body with
  | '0' :: 'b' :: r => allAndSome isBinaryOrScore r
  | '0' :: 'x' :: r => allAndSome isHexOrScore r
  | '0' :: r => r.all isOctalOrScore
  | c :: _ =>
    match parts body with
    | first :: more => c.isDigit && first.all isDigitOrScore && more.all isSixtieth
    | [] => false
  | [] => false

/-- Nothing, or a signed exponent. -/
def isExponent (cs : List Char) : Bool :=
  match cs with
  | [] => true
  | e :: sign :: digits =>
    (e = 'e' || e = 'E') && (sign = '+' || sign = '-') && allAndSome Char.isDigit digits
  | _ => false

def startsWithDigit (cs : List Char) : Bool := cs.head?.any Char.isDigit

/-- After the point: digits, and an exponent. -/
def isFraction (cs : List Char) : Bool := isExponent (cs.dropWhile isDigitOrScore)

/-- Groups of sixty, the last with a point. -/
def isSexagesimal (cs : List Char) : Bool :=
  let whole := cs.takeWhile (· ≠ '.')
  match cs.dropWhile (· ≠ '.'), parts whole with
  | '.' :: fraction, first :: second :: more =>
    startsWithDigit first && first.all isDigitOrScore && (second :: more).all isSixtieth &&
      fraction.all isDigitOrScore
  | _, _ => false

def isFloat (s : String) : Bool :=
  let cs := s.toList
  let body := dropSign cs
  let isDecimal :=
    match body.dropWhile isDigitOrScore with
    | '.' :: fraction => startsWithDigit body && isFraction fraction
    | _ => false
  let isPointed :=
    match cs with
    | '.' :: fraction => startsWithDigit fraction && isFraction fraction
    | _ => false
  let word := String.ofList body
  isDecimal || isPointed || isSexagesimal body || [".inf", ".Inf", ".INF"].contains word ||
    [".nan", ".NaN", ".NAN"].contains s

end Form

/-- The parts of a date, with a time of day if there is one. -/
structure Timestamp where
  year : Nat
  month : Nat
  day : Nat
  time : Option (Nat × Nat × Nat) := none
  micro : Nat := 0
  offset : Option Int := none
  /-- Month and day are written with two digits. -/
  isPadded : Bool
  deriving Repr

namespace Timestamp

def number (ds : List Char) : Nat := Number.valueOf 10 (ds.map fun d => d.toNat - 0x30)

/-- As many digits as there are, between the two counts. -/
def digits? (least most : Nat) (cs : List Char) : Option (List Char × List Char) :=
  let ds := (cs.take most).takeWhile Char.isDigit
  if ds.length < least then none else some (ds, cs.drop ds.length)

def sign? (c : Char) (cs : List Char) : Option (List Char) :=
  if cs.head? == some c then some cs.tail else none

def isBlank (c : Char) : Bool := c = ' ' || c = '\t'

/-- The offset in seconds; a letter stands for no offset. -/
def offset? (cs : List Char) : Option (Option Int) := do
  match cs.dropWhile isBlank with
  | [] => if cs.isEmpty then some none else none
  | ['Z'] => some (some 0)
  | c :: r =>
    if c ≠ '+' && c ≠ '-' then none
    let (h, r) ← digits? 1 2 r
    let (m, r) ←
      match r with
      | ':' :: r => digits? 2 2 r
      | _ => some ([], r)
    if !r.isEmpty then none
    let seconds : Int := number h * 3600 + number m * 60
    some (some (if c = '-' then -seconds else seconds))

/-- Six digits of the fraction count. -/
def micros (ds : List Char) : Nat := number ((ds ++ List.replicate 6 '0').take 6)

def read? (s : String) : Option Timestamp := do
  let (y, r) ← digits? 4 4 s.toList
  let (m, r) ← digits? 1 2 (← sign? '-' r)
  let (d, r) ← digits? 1 2 (← sign? '-' r)
  let isPadded := m.length = 2 && d.length = 2
  let date : Timestamp := { year := number y, month := number m, day := number d, isPadded }
  if r.isEmpty then return date
  let rest ← if r.head?.any fun c => c = 'T' || c = 't' then some r.tail
    else if r.head?.any isBlank then some (r.dropWhile isBlank) else none
  let (h, r) ← digits? 1 2 rest
  let (mi, r) ← digits? 2 2 (← sign? ':' r)
  let (sec, r) ← digits? 2 2 (← sign? ':' r)
  let (fraction, r) :=
    match r with
    | '.' :: r => (r.takeWhile Char.isDigit, r.dropWhile Char.isDigit)
    | _ => ([], r)
  let offset ← offset? r
  return { date with time := some (number h, number mi, number sec), micro := micros fraction, offset }

/-- The form in which a text without a tag is a date. -/
def isForm (s : String) : Bool := (read? s).any fun t => t.time.isSome || t.isPadded

end Timestamp

namespace Tag

/-- The tag of a text without quotes. -/
def ofPlain (s : String) : Tag :=
  if Form.isBool s then bool
  else if Form.isFloat s then float
  else if Form.isInt s then int
  else if s = "<<" then merge
  else if Form.isNull s then null
  else if Timestamp.isForm s then timestamp
  else if s = "=" then value
  else str

end Tag

end PathPolicy.Yaml
