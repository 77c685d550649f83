import PathPolicy.Value
import PathPolicy.Text.Quoted
import PathPolicy.Number.Shortest

/-! Values as text: `display` writes a value so that its kind can be seen, `text` is
the same but for texts and dates, which stand for themselves. -/

namespace PathPolicy

def padded (width n : Nat) : String :=
  let digits := toString n
  String.ofList (List.replicate (width - digits.length) '0') ++ digits

def commaSeparated (items : List String) : String := String.intercalate ", " items

namespace Date

def iso (d : Date) : String :=
  padded 4 d.year ++ "-" ++ padded 2 d.month ++ "-" ++ padded 2 d.day

def display (d : Date) : String :=
  "datetime.date(" ++ commaSeparated [toString d.year, toString d.month, toString d.day] ++ ")"

end Date

namespace Moment

def isoOffset (seconds : Int) : String :=
  let size := seconds.natAbs
  let tail := if size % 60 == 0 then "" else ":" ++ padded 2 (size % 60)
  (if seconds < 0 then "-" else "+") ++ padded 2 (size / 3600) ++ ":" ++
    padded 2 (size / 60 % 60) ++ tail

/-- `mark` stands between the date and the time of day. -/
def iso (m : Moment) (mark : String) : String :=
  m.date.iso ++ mark ++ padded 2 m.hour ++ ":" ++ padded 2 m.minute ++ ":" ++ padded 2 m.second ++
    (if m.micro == 0 then "" else "." ++ padded 6 m.micro) ++
    (m.offset.map isoOffset).getD ""

/-- Days are rounded down, so that the seconds are never negative. -/
def displayOffset (seconds : Int) : String :=
  if seconds == 0 then "datetime.timezone.utc"
  else
    let days := Int.fdiv seconds 86400
    let rest := seconds - days * 86400
    let parts :=
      (if days == 0 then [] else ["days=" ++ toString days]) ++
        (if rest == 0 then [] else ["seconds=" ++ toString rest])
    "datetime.timezone(datetime.timedelta(" ++ commaSeparated parts ++ "))"

def display (m : Moment) : String :=
  let day := [m.date.year, m.date.month, m.date.day, m.hour, m.minute]
  let time := if m.micro == 0 && m.second == 0 then [] else [m.second]
  let micro := if m.micro == 0 then [] else [m.micro]
  let zone :=
    match m.offset with
    | none => []
    | some seconds => ["tzinfo=" ++ displayOffset seconds]
  "datetime.datetime(" ++ commaSeparated ((day ++ time ++ micro).map toString ++ zone) ++ ")"

end Moment

namespace Value

mutual

def display : Value → String
  | null => "None"
  | bool b => if b then "True" else "False"
  | int n => toString n
  | float x => Number.floatText x
  | str s => Text.quote s
  | bytes b => Text.quoteBytes b
  | date d => d.display
  | moment m => m.display
  | list items => "[" ++ commaSeparated (displayItems items) ++ "]"
  | tuple [] => "()"
  | tuple [item] => "(" ++ display item ++ ",)"
  | tuple items => "(" ++ commaSeparated (displayItems items) ++ ")"
  | set [] => "set()"
  | set items => "\x7b" ++ commaSeparated (displayItems items) ++ "\x7d"
  | map entries => "\x7b" ++ commaSeparated (displayEntries entries) ++ "\x7d"
  | enclosing r => if r.isMap then "\x7b...\x7d" else "[...]"

def displayItems : List Value → List String
  | [] => []
  | v :: rest => display v :: displayItems rest

def displayEntries : Entries → List String
  | [] => []
  | (k, v) :: rest => (display k ++ ": " ++ display v) :: displayEntries rest

end

def text : Value → String
  | str s => s
  | date d => d.iso
  | moment m => m.iso " "
  | v => v.display

end Value

end PathPolicy
