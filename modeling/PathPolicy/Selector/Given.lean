import PathPolicy.Selector

/-! What a caller may give as a pattern: a value, an expression that was compiled
beforehand, or a pattern. -/

namespace PathPolicy

/-- An expression compiled outside a pattern; its program knows all flags that hold,
the alphabet and those set inside its text included. -/
structure Expression where
  source : String
  program : Regex.Program

namespace Expression

variable [Host]

def make (source : String) (flags : Regex.Flags) : Except Regex.Fault Expression :=
  (Host.compile .caller source flags).map (⟨source, ·⟩)

/-- Names of flags in the order in which they are shown. -/
def flagNames : List (Regex.Flag × String) :=
  [(.template, "re.TEMPLATE"), (.ignoreCase, "re.IGNORECASE"), (.locale, "re.LOCALE"),
    (.multiline, "re.MULTILINE"), (.dotAll, "re.DOTALL"), (.unicode, "re.UNICODE"),
    (.verbose, "re.VERBOSE"), (.ascii, "re.ASCII")]

/-- Flags without a name, as one unsigned word of 32 bits. -/
def restText (flags : Regex.Flags) : String :=
  "0x" ++ String.ofList (Nat.toDigits 16 (flags % 0x100000000).toNat)

/-- The text that stands for the expression: at most 200 characters of its quoted
source, and its flags but for the usual alphabet. -/
def text (e : Expression) : String :=
  let flags := Regex.Flags.remove e.program.flags .unicode
  let shown := flagNames.filter fun f => flags.has f.1
  let rest := shown.foldl (fun w f => Regex.Flags.remove w f.1) flags
  let names := shown.map (·.2) ++ (if rest == 0 then [] else [restText rest])
  let source := String.ofList ((Text.quote e.source).toList.take 200)
  "re.compile(" ++ source ++
    (if names.isEmpty then "" else ", " ++ String.intercalate "|" names) ++ ")"

end Expression

variable [Host]

namespace PathPattern

inductive Given where
  | value (v : Value)
  | expression (e : Expression)
  | pattern (p : PathPattern)

/-- An expression keeps the flags that have a meaning, but the usual alphabet is not
written down. -/
def ofGiven : Given → Except Failure PathPattern
  | .value v => ofValue v 0
  | .expression e => make e.source ((Regex.Flags.known e.program.flags).remove .unicode)
  | .pattern p => .ok p

/-- How a pattern given by mistake is reported. -/
def Given.text : Given → String
  | value v => v.text
  | expression e => e.text
  | pattern p =>
    "PathPattern(source=" ++ Text.quote p.source ++ ", flags=" ++ toString p.flags ++ ")"

end PathPattern

namespace Selector

/-- Exactly one of the two has to be given; nothing is a null path. -/
def choose (path : Value) (pattern : Option PathPattern.Given) : Except Failure Selector :=
  match path.isNull, pattern with
  | false, none =>
    (ExactPath.ofValue path).map .exact
  | true, some given => (PathPattern.ofGiven given).map .pattern
  | _, given =>
    .error (.definition (.selectorChoice path ((given.map (Value.str ·.text)).getD .null)))

end Selector

end PathPolicy
