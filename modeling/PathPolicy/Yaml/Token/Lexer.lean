import PathPolicy.Yaml.Token.Label
import PathPolicy.Yaml.Token.Quoted
import PathPolicy.Yaml.Token.Block
import PathPolicy.Yaml.Token.Plain

/-! The tokens of a text. Outside brackets the columns of keys and entries say where
collections begin and end. Whether a token begins a key is known only when a colon
follows it on its line; until then the place is remembered. -/

namespace PathPolicy.Yaml

/-- A place where a key may have begun. `number` counts the tokens before it; a key that
is required has its own line and must be followed by a colon. -/
structure PossibleKey where
  number : Nat
  required : Bool
  index : Nat
  line : Nat
  column : Nat

/-- `tokens` has the last token first. `indents` are the columns of the collections that
are open, the innermost first, and `flow` is the number of open brackets. -/
structure Lexer where
  cursor : Cursor
  tokens : List Token := []
  flow : Nat := 0
  indents : List Nat := []
  allowsKey : Bool := true
  keys : List (Nat × PossibleKey) := []

namespace Lexer

abbrev Lexing := StateT Lexer (Except Refusal)

def refuse {α : Type} (reason : Malformed) : Lexing α := throw (.malformed reason)

def scan {α : Type} (s : Scan α) : Lexing α := do
  let lx ← get
  let (a, c) ← s lx.cursor
  set { lx with cursor := c }
  return a

def emit (t : Token) : Lexing Unit := modify fun lx => { lx with tokens := t :: lx.tokens }

/-- Puts a token before those from `number` on. -/
def emitAt (number : Nat) (t : Token) : Lexing Unit :=
  modify fun lx =>
    let later := lx.tokens.length - number
    { lx with tokens := lx.tokens.take later ++ t :: lx.tokens.drop later }

def allowKey (b : Bool) : Lexing Unit := modify fun lx => { lx with allowsKey := b }

/-- The column of the innermost collection comes before the given column. -/
def isInside (lx : Lexer) (column : Nat) : Bool := lx.indents.head?.all (· < column)

/-- The least column of what belongs to the innermost collection. -/
def leastIndent (lx : Lexer) : Nat := (lx.indents.head?.map (· + 1)).getD 0

/-- Ends the collections that are indented more. -/
def unwind (isDeeper : Nat → Bool) : Lexing Unit :=
  modify fun lx =>
    if 0 < lx.flow then lx
    else
      let ended := (lx.indents.takeWhile isDeeper).length
      { lx with
        indents := lx.indents.drop ended
        tokens := List.replicate ended .blockEnd ++ lx.tokens }

/-- Begins a collection, unless one with that column is open. -/
def indent (column : Nat) (number : Option Nat) (t : Token) : Lexing Unit := do
  let lx ← get
  if lx.isInside column then
    set { lx with indents := column :: lx.indents }
    match number with
    | some n => emitAt n t
    | none => emit t

/-- A key is on one line and at most 1024 characters long. -/
def isStale (c : Cursor) (k : PossibleKey) : Bool := k.line ≠ c.line || k.index + 1024 < c.index

def dropStaleKeys : Lexing Unit := do
  let lx ← get
  let stale := lx.keys.filter fun k => isStale lx.cursor k.2
  if stale.any (·.2.required) then refuse .missingColon
  set { lx with keys := lx.keys.filter fun k => !isStale lx.cursor k.2 }

/-- Forgets the place remembered for the brackets that are open now. -/
def dropKey : Lexing Unit := do
  let lx ← get
  match lx.keys.lookup lx.flow with
  | none => return
  | some k =>
    if k.required then refuse .missingColon
    set { lx with keys := lx.keys.filter (·.1 ≠ lx.flow) }

def saveKey : Lexing Unit := do
  let lx ← get
  if lx.allowsKey then
    dropKey
    let c := lx.cursor
    let required := lx.flow = 0 && lx.indents.head? == some c.column
    let k : PossibleKey := ⟨lx.tokens.length, required, c.index, c.line, c.column⟩
    modify fun lx => { lx with keys := (lx.flow, k) :: lx.keys }

/-- Over spaces, comments and line ends to the next token. -/
def skipToToken : Nat → Lexing Unit
  | 0 => return
  | fuel + 1 => do
    scan Scan.skipSpaces
    scan Scan.skipComment
    let b ← scan Scan.takeBreak
    if !b.isEmpty then
      if (← get).flow = 0 then allowKey true
      skipToToken fuel

def sign (length : Nat) (t : Token) : Lexing Unit := do
  scan (Scan.advance length)
  emit t

def directive : Lexing Unit := do
  unwind fun _ => true
  dropKey
  allowKey false
  emit (.directive (← scan Label.directive))

def documentMark (t : Token) : Lexing Unit := do
  unwind fun _ => true
  dropKey
  allowKey false
  sign 3 t

def openBracket (t : Token) : Lexing Unit := do
  saveKey
  modify fun lx => { lx with flow := lx.flow + 1, allowsKey := true }
  sign 1 t

def closeBracket (t : Token) : Lexing Unit := do
  dropKey
  if (← get).flow = 0 then refuse .unexpectedToken
  modify fun lx => { lx with flow := lx.flow - 1, allowsKey := false }
  sign 1 t

def flowEntry : Lexing Unit := do
  allowKey true
  dropKey
  sign 1 .flowEntry

def blockEntry : Lexing Unit := do
  let lx ← get
  if lx.flow = 0 then
    if !lx.allowsKey then refuse .misplacedEntry
    indent lx.cursor.column none .blockSequenceStart
  allowKey true
  dropKey
  sign 1 .blockEntry

def key : Lexing Unit := do
  let lx ← get
  if lx.flow = 0 then
    if !lx.allowsKey then refuse .misplacedKey
    indent lx.cursor.column none .blockMappingStart
  allowKey (lx.flow = 0)
  dropKey
  sign 1 .key

/-- The value of the key that was remembered, or of one that was announced. -/
def value : Lexing Unit := do
  let lx ← get
  match lx.keys.lookup lx.flow with
  | some k =>
    set { lx with keys := lx.keys.filter (·.1 ≠ lx.flow), allowsKey := false }
    emitAt k.number .key
    if lx.flow = 0 then indent k.column (some k.number) .blockMappingStart
  | none =>
    if lx.flow = 0 then
      if !lx.allowsKey then refuse .misplacedValue
      indent lx.cursor.column none .blockMappingStart
    allowKey (lx.flow = 0)
    dropKey
  sign 1 .value

def label (t : Scan Token) : Lexing Unit := do
  saveKey
  allowKey false
  emit (← scan t)

def blockText (folded : Bool) : Lexing Unit := do
  allowKey true
  dropKey
  let least := max 1 (← get).leastIndent
  emit (.scalar (← scan (Block.text folded least)) false)

def plainText : Lexing Unit := do
  saveKey
  let lx ← get
  let (text, isNewLine) ← scan (Plain.text (0 < lx.flow) lx.leastIndent)
  allowKey isNewLine
  emit (.scalar text true)

/-- Signs that have a meaning of their own at the start of a token. -/
def isIndicator (c : Char) : Bool :=
  "-?:,[]\x7b\x7d#&*!|>'\"%@\x60".toList.contains c

def startsPlain (lx : Lexer) (c : Char) : Bool :=
  !(c = ' ' || c = '\t' || isBreak c || isIndicator c) ||
    (!isBlankOrEnd (lx.cursor.peekAt 1) && (c = '-' || (lx.flow = 0 && (c = '?' || c = ':'))))

/-- The token that begins with a character. -/
def token (lx : Lexer) (c : Char) : Lexing Unit :=
  let inFlow := 0 < lx.flow
  let isApart := isBlankOrEnd (lx.cursor.peekAt 1)
  let isFirst := lx.cursor.column = 0
  if c = '%' && isFirst then directive
  else if isFirst && lx.cursor.isMark '-' then documentMark .documentStart
  else if isFirst && lx.cursor.isMark '.' then documentMark .documentEnd
  else if c = '[' then openBracket .flowSequenceStart
  else if c = '\x7b' then openBracket .flowMappingStart
  else if c = ']' then closeBracket .flowSequenceEnd
  else if c = '\x7d' then closeBracket .flowMappingEnd
  else if c = ',' then flowEntry
  else if c = '-' && isApart then blockEntry
  else if c = '?' && (inFlow || isApart) then key
  else if c = ':' && (inFlow || isApart) then value
  else if c = '*' then label (Token.alias <$> Label.anchor)
  else if c = '&' then label (Token.anchor <$> Label.anchor)
  else if c = '!' then label (Token.tag <$> Label.tag)
  else if c = '|' && !inFlow then blockText false
  else if c = '>' && !inFlow then blockText true
  else if c = '\'' || c = '"' then label ((Token.scalar · false) <$> Quoted.text c)
  else if startsPlain lx c then plainText
  else refuse .badStart

/-- Reads to the next token and over it; false at the end of the text. -/
def next : Lexing Bool := do
  skipToToken ((← get).cursor.rest.length + 1)
  dropStaleKeys
  let column := (← get).cursor.column
  unwind (column < ·)
  let lx ← get
  match lx.cursor.peek with
  | none =>
    unwind fun _ => true
    dropKey
    return false
  | some c =>
    token lx c
    return true

def all (lx : Lexer) : Nat → TokenStream
  | 0 => ⟨lx.tokens.reverse, none⟩
  | fuel + 1 =>
    match next lx with
    | .error e => ⟨lx.tokens.reverse, some e⟩
    | .ok (true, lx) => all lx fuel
    | .ok (false, lx) => ⟨lx.tokens.reverse, none⟩

end Lexer

/-- A byte order mark at the start is skipped. -/
def TokenStream.ofText (text : List Char) : TokenStream :=
  let start : Cursor := { rest := text }
  let start := if start.peek == some '\uFEFF' then start.next else start
  Lexer.all { cursor := start } (text.length + 1)

end PathPolicy.Yaml
