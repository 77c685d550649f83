import PathPolicy.Yaml.Cursor
import PathPolicy.Number.Reading

/-! Quoted texts. Line breaks are folded: a single one is a space, and of several the
first is dropped. Between double quotes there are escapes; between single quotes a
quote is written twice. -/

namespace PathPolicy.Yaml.Quoted

open Scan

/-- The character that a letter after a backslash stands for. -/
def escapeOf? (c : Char) : Option Char :=
  match c with
  | '0' => some '\x00'
  | 'a' => some '\x07'
  | 'b' => some '\x08'
  | 't' => some '\t'
  | '\t' => some '\t'
  | 'n' => some '\n'
  | 'v' => some '\x0b'
  | 'f' => some '\x0c'
  | 'r' => some '\r'
  | 'e' => some '\x1b'
  | ' ' => some ' '
  | '"' => some '"'
  | '\\' => some '\\'
  | '/' => some '/'
  | 'N' => some '\u0085'
  | '_' => some '\u00a0'
  | 'L' => some '\u2028'
  | 'P' => some '\u2029'
  | _ => none

/-- How many hexadecimal digits follow the letter. -/
def codeLength? (c : Char) : Option Nat :=
  match c with
  | 'x' => some 2
  | 'u' => some 4
  | 'U' => some 8
  | _ => none

def hexDigit? (c : Char) : Option Nat := if c.isAlphanum then Number.digitIn? 16 c else none

def code (length : Nat) : Scan Nat := do
  let digits := ((← get).rest.take length).filterMap hexDigit?
  if digits.length < length then refuse .badEscape
  advance length
  return Number.valueOf 16 digits

/-- The second half of a pair of codes for one character. -/
def lowHalf? (rest : List Char) : Option Nat :=
  match rest with
  | '\\' :: 'u' :: more =>
    let digits := (more.take 4).filterMap hexDigit?
    let n := Number.valueOf 16 digits
    if digits.length = 4 && 0xDC00 ≤ n && n < 0xE000 then some n else none
  | _ => none

/-- Two halves together stand for one character; a half alone stands for none, and is
replaced. -/
def coded (n : Nat) : Scan Char := do
  if 0x80000000 ≤ n then throw (.fault .codeTooLarge)
  if 0x10FFFF < n then throw (.fault .codeOutOfRange)
  if 0xD800 ≤ n && n < 0xDC00 then
    match lowHalf? (← get).rest with
    | some low =>
      advance 6
      return Char.ofNat (0x10000 + (n - 0xD800) * 0x400 + (low - 0xDC00))
    | none => return '\uFFFD'
  if 0xDC00 ≤ n && n < 0xE000 then return '\uFFFD'
  return Char.ofNat n

/-- Line breaks and the blanks around them. -/
def breaks : Nat → Scan (List Char)
  | 0 => return []
  | fuel + 1 => do
    if (← get).isDocumentMark then refuse .documentMarkInQuote
    skipWhile fun c => c = ' ' || c = '\t'
    if (← peek).any isBreak then
      let b ← takeBreak
      return b ++ (← breaks fuel)
    return []

/-- What follows a backslash. -/
def escape : Scan (List Char) := do
  match ← peek with
  | none => refuse .badEscape
  | some c =>
    match escapeOf? c, codeLength? c with
    | some d, _ => advance 1; return [d]
    | none, some length =>
      advance 1
      return [← coded (← code length)]
    | none, none =>
      if isBreak c then
        discard takeBreak
        breaks (← fuel)
      else refuse .badEscape

def isOrdinary (c : Char) : Bool :=
  !(c = '\'' || c = '"' || c = '\\' || c = ' ' || c = '\t' || isBreak c)

/-- Blanks inside a line, or a folded line break. -/
def blanks : Scan (List Char) := do
  let spaces ← takeWhile fun c => c = ' ' || c = '\t'
  match ← peek with
  | none => refuse .unclosedQuote
  | some c =>
    if isBreak c then
      let first ← takeBreak
      let more ← breaks (← fuel)
      if first ≠ ['\n'] then return first ++ more
      return if more.isEmpty then [' '] else more
    return spaces

/-- The text up to the closing quote. -/
def body (quote : Char) (done : List Char) : Nat → Scan (List Char)
  | 0 => refuse .unclosedQuote
  | fuel + 1 => do
    let double := quote = '"'
    let done := done ++ (← takeWhile isOrdinary)
    match (← get).rest with
    | [] => refuse .unclosedQuote
    | c :: more =>
      if c = '\'' && !double && more.head? == some '\'' then
        advance 2
        body quote (done ++ ['\'']) fuel
      else if c = quote then
        advance 1
        return done
      else if c = '\\' && double then
        advance 1
        body quote (done ++ (← escape)) fuel
      else if c = '\'' || c = '"' || c = '\\' then
        advance 1
        body quote (done ++ [c]) fuel
      else body quote (done ++ (← blanks)) fuel

def text (quote : Char) : Scan String := do
  advance 1
  return String.ofList (← body quote [] (← fuel))

end PathPolicy.Yaml.Quoted
