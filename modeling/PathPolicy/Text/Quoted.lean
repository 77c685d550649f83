import PathPolicy.Text.Printable

/-! Quoted text. A text stands in single quotes unless it holds a single quote
and no double quote; the quote, the backslash and characters that cannot be
printed are escaped. -/

namespace PathPolicy.Text

def hexDigit (n : Nat) : Char :=
  if n < 10 then Char.ofNat (0x30 + n) else Char.ofNat (0x57 + n)

/-- `n` in lower-case hexadecimal with `width` digits. -/
def hexPadded : Nat → Nat → List Char
  | 0, _ => []
  | width + 1, n => hexPadded width (n / 16) ++ [hexDigit (n % 16)]

def quoteOf (s : List Char) : Char :=
  if s.contains '\'' && !s.contains '"' then '"' else '\''

def escapeCode (n : Nat) : List Char :=
  if n < 0x100 then '\\' :: 'x' :: hexPadded 2 n
  else if n < 0x10000 then '\\' :: 'u' :: hexPadded 4 n
  else '\\' :: 'U' :: hexPadded 8 n

def escapeChar (mark c : Char) : List Char :=
  if c = mark || c = '\\' then ['\\', c]
  else if c = '\n' then ['\\', 'n']
  else if c = '\r' then ['\\', 'r']
  else if c = '\t' then ['\\', 't']
  else if isPrintable c then [c]
  else escapeCode c.toNat

def quoteChars (s : List Char) : List Char :=
  let mark := quoteOf s
  mark :: s.flatMap (escapeChar mark) ++ [mark]

def quote (s : String) : String := String.ofList (quoteChars s.toList)

/-- A byte string after its `b`: printable ASCII stands for itself. -/
def quoteBytes (bytes : List UInt8) : String :=
  let codes := bytes.map fun b => Char.ofNat b.toNat
  let mark := quoteOf codes
  let body := codes.flatMap fun c =>
    if c.toNat < 0x7F then escapeChar mark c else escapeCode c.toNat
  String.ofList ('b' :: mark :: body ++ [mark])

end PathPolicy.Text
