import PathPolicy.Yaml.Cursor
import PathPolicy.Yaml.Token
import PathPolicy.Number.Reading

/-! Anchors, aliases, tags and directives. Each begins at the sign that announces it. -/

namespace PathPolicy.Yaml.Label

open Scan

def isNameChar (c : Char) : Bool := c.isAlphanum || c = '-' || c = '_'

/-- What may follow the name of an anchor. -/
def endsAnchor (c : Option Char) : Bool :=
  isBlankOrEnd c || c.any ['?', ':', ',', ']', '\x7d', '%', '@', '\x60'].contains

def anchor : Scan String := do
  advance 1
  let name ← takeWhile isNameChar
  if name.isEmpty || !endsAnchor (← peek) then refuse .badAnchor
  return String.ofList name

def isUriChar (c : Char) : Bool :=
  c.isAlphanum || "-;/?:@&=+$,_.!~*'()[]%".toList.contains c

def hexDigit? (c : Char) : Option Nat := if c.isAlphanum then Number.digitIn? 16 c else none

/-- The bytes that a run of escapes stands for. -/
def escapedBytes : Nat → Scan (List UInt8)
  | 0 => refuse .badTag
  | fuel + 1 => do
    match (← get).rest with
    | '%' :: a :: b :: _ =>
      match hexDigit? a, hexDigit? b with
      | some x, some y =>
        advance 3
        return UInt8.ofNat (x * 16 + y) :: (← escapedBytes fuel)
      | _, _ => refuse .badTag
    | '%' :: _ => refuse .badTag
    | _ => return []

def uriFrom (done : List Char) : Nat → Scan String
  | 0 => refuse .badTag
  | fuel + 1 => do
    let done := done ++ (← takeWhile fun ch => isUriChar ch && ch ≠ '%')
    if (← peek) == some '%' then
      match Text.Utf8.decode (← escapedBytes (← Scan.fuel)) with
      | .ok chars => uriFrom (done ++ chars) fuel
      | .error _ => refuse .badTag
    else return String.ofList done

def uri : Scan String := do
  if !(← peek).any isUriChar then refuse .badTag
  uriFrom [] (← fuel)

/-- A name between two exclamation marks, or a single mark before a space. -/
def handle : Scan String := do
  if (← peek) ≠ some '!' then refuse .badTag
  advance 1
  if (← peek) == some ' ' then return "!"
  let name ← takeWhile isNameChar
  if (← peek) ≠ some '!' then refuse .badTag
  advance 1
  return "!" ++ String.ofList name ++ "!"

/-- The text up to the next space has a second exclamation mark. -/
def hasHandle (c : Cursor) : Bool :=
  (c.next.rest.takeWhile fun ch => !(ch = ' ' || isBreak ch)).contains '!'

def tagBody : Scan WrittenTag := do
  if (← peekAt 1) == some '<' then
    advance 2
    let suffix ← uri
    if (← peek) ≠ some '>' then refuse .badTag
    advance 1
    return ⟨none, suffix⟩
  if isBlankOrEnd (← peekAt 1) then
    advance 1
    return ⟨none, "!"⟩
  if hasHandle (← get) then
    let h ← handle
    return ⟨some h, ← uri⟩
  advance 1
  return ⟨some "!", ← uri⟩

def tag : Scan WrittenTag := do
  let t ← tagBody
  if !isSpaceOrEnd (← peek) then refuse .badTag
  return t

def versionNumber : Scan Nat := do
  let digits ← takeWhile Char.isDigit
  if digits.isEmpty then refuse .badDirective
  return Number.valueOf 10 (digits.map fun d => d.toNat - 0x30)

def version : Scan Directive := do
  skipSpaces
  let major ← versionNumber
  if (← peek) ≠ some '.' then refuse .badDirective
  advance 1
  let minor ← versionNumber
  if !isSpaceOrEnd (← peek) then refuse .badDirective
  return .version major minor

def tagDirective : Scan Directive := do
  skipSpaces
  let name ← handle
  if (← peek) ≠ some ' ' then refuse .badDirective
  skipSpaces
  let replacement ← uri
  if !isSpaceOrEnd (← peek) then refuse .badDirective
  return .handle name replacement

def directiveBody (name : String) : Scan Directive :=
  match name with
  | "YAML" => version
  | "TAG" => tagDirective
  | _ => do
    skipWhile (!isBreak ·)
    return .other

def directive : Scan Directive := do
  advance 1
  let name ← takeWhile isNameChar
  if name.isEmpty || !isSpaceOrEnd (← peek) then refuse .badDirective
  let d ← directiveBody (String.ofList name)
  endOfLine .badDirective
  return d

end PathPolicy.Yaml.Label
