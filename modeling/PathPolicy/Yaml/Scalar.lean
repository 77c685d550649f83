import PathPolicy.Value
import PathPolicy.Yaml.Tag
import PathPolicy.Yaml.Fault
import PathPolicy.Text.Base64
import PathPolicy.Text.Case

/-! The values of texts with a tag. A tag given by hand may be on a text of any form,
which then need not have a value. -/

namespace PathPolicy.Yaml.Scalar

abbrev Read := Except Refusal Value

def fault {α : Type} (f : Fault) : Except Refusal α := .error (.fault f)

def withoutScores (s : String) : List Char := s.toList.filter (· ≠ '_')

def boolean (s : String) : Read :=
  let word := Text.lower s
  if ["yes", "true", "on"].contains word then .ok (.bool true)
  else if ["no", "false", "off"].contains word then .ok (.bool false)
  else fault (.unknownBoolean word)

def integerIn (base : Nat) (cs : List Char) : Except Refusal Int :=
  match Number.readInteger base cs with
  | .ok n => .ok n
  | .error .malformed => fault (.badInteger base (String.ofList cs))
  | .error (.tooLong digits) => fault (.integerTooLong (some digits))

/-- Numbers between colons count sixty each. -/
def sexagesimal (parts : List Int) : Int := parts.foldl (fun n d => n * 60 + d) 0

def integer (s : String) : Except Refusal Int := do
  let (negative, body) := Number.splitSign (withoutScores s)
  let size ←
    match body with
    | [] => fault .emptyNumber
    | ['0'] => pure 0
    | '0' :: 'b' :: digits => integerIn 2 digits
    | '0' :: 'x' :: digits => integerIn 16 digits
    | '0' :: _ => integerIn 8 body
    | _ =>
      if body.contains ':' then sexagesimal <$> (Form.parts body).mapM (integerIn 10)
      else integerIn 10 body
  return if negative then -size else size

def double (cs : List Char) : Except Refusal Float :=
  match Number.readFloat? cs with
  | some x => .ok x
  | none => fault (.badFloat (String.ofList cs))

/-- The last part counts ones, the part before it sixties, and so on, summed up from the
last. -/
def sexagesimalDouble (parts : List Float) : Float :=
  (parts.reverse.foldl (fun (sum, base) d => (sum + d * base, base * 60.0)) ((0.0 : Float), (1.0 : Float))).1

def float (s : String) : Except Refusal Float := do
  let text := (Text.lower (String.ofList (withoutScores s))).toList
  if text.isEmpty then fault .emptyNumber
  let (negative, body) := Number.splitSign text
  if String.ofList body = ".nan" then return 0.0 / 0.0
  let size ←
    if String.ofList body = ".inf" then pure (1.0 / 0.0)
    else if body.contains ':' then sexagesimalDouble <$> (Form.parts body).mapM double
    else double body
  return if negative then -size else size

def calendar {α : Type} (x : Except CalendarFault α) : Except Refusal α :=
  x.mapError fun f => .fault (.calendar f)

/-- A single line end after the text does not count. -/
def withoutLineEnd (s : String) : String :=
  if s.toList.getLast? == some '\n' then String.ofList s.toList.dropLast else s

def timestamp (s : String) : Read := do
  match Timestamp.read? (withoutLineEnd s) with
  | none => fault (.noAttribute "NoneType" "groupdict")
  | some t =>
    match t.time with
    | none => return .date (← calendar (Date.make t.year t.month t.day))
    | some (hour, minute, second) =>
      return .moment (← calendar (Moment.make t.year t.month t.day hour minute second t.micro t.offset))

def binary (s : String) : Read :=
  if s.toList.any (127 < ·.toNat) then .error (.malformed .badBase64)
  else
    match Text.Base64.decode? s.toList with
    | some bytes => .ok (.bytes bytes)
    | none => .error (.malformed .badBase64)

/-- The value of a text with a tag that is meant for texts. -/
def value? (tag : Tag) (s : String) : Option Read :=
  match tag with
  | .null => some (.ok .null)
  | .bool => some (boolean s)
  | .int => some (Value.int <$> integer s)
  | .float => some (Value.float <$> float s)
  | .binary => some (binary s)
  | .timestamp => some (timestamp s)
  | .str => some (.ok (.str s))
  | _ => none

end PathPolicy.Yaml.Scalar
