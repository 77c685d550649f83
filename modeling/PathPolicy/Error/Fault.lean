import PathPolicy.Value
import PathPolicy.Regex.Fault
import PathPolicy.Text.Utf8
import PathPolicy.Text.Quoted

/-! Faults: failures that are no fault of a definition's own checks. They come from
values of the wrong kind, limits, files and the predicates of callers, and pass
through unchanged. -/

namespace PathPolicy

/-- What a caller's predicate raises: an error of its own, or the refusal of a request by
a schema that it asked itself. -/
inductive Raised where
  | error (message : String)
  | violation (path : String) (name : Value) (reason : String)

instance : Coe String Raised := ⟨.error⟩

inductive Fault where
  | predicate (raised : Raised)
  | pattern (fault : Regex.Fault)
  | notText (typeName : String)
  | unhashable (typeName : String)
  | notJoinable (index : Nat) (typeName : String)
  | notComparable (left right : String)
  | reservedName
  | noLength (typeName : String)
  | noAttribute (typeName member : String)
  | undecodable (fault : Text.Utf8.Fault)
  | isDirectory (path : String)
  | nameTooLong (path : String)
  | noHome
  | nulInPath
  | calendar (fault : CalendarFault)
  | badInteger (base : Nat) (text : String)
  /-- The digits are counted when a text is read, and not when one is written. -/
  | integerTooLong (digits : Option Nat)
  | badFloat (text : String)
  | unknownBoolean (word : String)
  | emptyNumber
  | codeOutOfRange
  | codeTooLarge
  | tooDeep

namespace Fault

def hexByte (b : UInt8) : String := String.ofList (Text.hexPadded 2 b.toNat)

def undecodableMessage (f : Text.Utf8.Fault) : String :=
  let reason :=
    match f.reason with
    | .invalidStart => "invalid start byte"
    | .invalidContinuation => "invalid continuation byte"
    | .unexpectedEnd => "unexpected end of data"
  let place :=
    if f.count = 1 then
      "byte 0x" ++ hexByte f.byte ++ " in position " ++ toString f.position
    else
      "bytes in position " ++ toString f.position ++ "-" ++ toString (f.position + f.count - 1)
  "'utf-8' codec can't decode " ++ place ++ ": " ++ reason

def tooManyDigits (digits : Option Nat) : String :=
  "Exceeds the limit (4300 digits) for integer string conversion" ++
    (digits.elim "" fun n => ": value has " ++ toString n ++ " digits") ++
    "; use sys.set_int_max_str_digits() to increase the limit"

/-- An offset of a day or more, as whole days and what is left. -/
def offsetText (seconds : Int) : String :=
  let days := Int.fdiv seconds 86400
  let rest := seconds - days * 86400
  let parts := "days=" ++ toString days
  "datetime.timedelta(" ++
    (if rest == 0 then parts else parts ++ ", seconds=" ++ toString rest) ++ ")"

def calendarMessage : CalendarFault → String
  | .year value => "year " ++ toString value ++ " is out of range"
  | .month => "month must be in 1..12"
  | .day => "day is out of range for month"
  | .hour => "hour must be in 0..23"
  | .minute => "minute must be in 0..59"
  | .second => "second must be in 0..59"
  | .offset seconds =>
    "offset must be a timedelta strictly between -timedelta(hours=24) and " ++
      "timedelta(hours=24), not " ++ offsetText seconds ++ "."

def patternMessage : Regex.Fault → String
  | .malformed reason => reason.message
  | .repeatTooLarge => "the repetition number is too large"
  | .integerTooLong digits => tooManyDigits digits
  | .localeFlag => "cannot use LOCALE flag with a str pattern"
  | .asciiAndUnicode => "ASCII and UNICODE flags are incompatible"
  | .flagsOutOfRange => "Python int too large to convert to C int"
  | .lookbehindTooWide => "invalid SRE code"
  | .tooDeep => ""

def violationMessage (path reason : String) : String :=
  "Schema violation: " ++ reason ++ " (path: " ++ path ++ ")"

def message : Fault → String
  | predicate (.error message) => message
  | predicate (.violation path _ reason) => violationMessage path reason
  | pattern fault => patternMessage fault
  | notText typeName => "expected string or bytes-like object, got '" ++ typeName ++ "'"
  | unhashable typeName => "unhashable type: '" ++ typeName ++ "'"
  | notJoinable index typeName =>
    "sequence item " ++ toString index ++ ": expected str instance, " ++ typeName ++ " found"
  | notComparable left right =>
    "'<' not supported between instances of '" ++ left ++ "' and '" ++ right ++ "'"
  | reservedName => "SchemaBuilder.metadata() got multiple values for argument 'self'"
  | noLength typeName => "object of type '" ++ typeName ++ "' has no len()"
  | noAttribute typeName member =>
    "'" ++ typeName ++ "' object has no attribute '" ++ member ++ "'"
  | undecodable fault => undecodableMessage fault
  | isDirectory path => "[Errno 21] Is a directory: " ++ Text.quote path
  | nameTooLong path => "[Errno 36] File name too long: " ++ Text.quote path
  | noHome => "Could not determine home directory."
  | nulInPath => "embedded null byte"
  | calendar fault => calendarMessage fault
  | badInteger base text =>
    "invalid literal for int() with base " ++ toString base ++ ": " ++ Text.quote text
  | integerTooLong digits => tooManyDigits digits
  | badFloat text => "could not convert string to float: " ++ Text.quote text
  | unknownBoolean word => Text.quote word
  | emptyNumber => "string index out of range"
  | codeOutOfRange => "chr() arg not in range(0x110000)"
  | codeTooLarge => "Python int too large to convert to C int"
  | tooDeep => ""

end Fault

end PathPolicy
