/-! Calendar dates and moments of the day, with the offset from universal time in
seconds where one is given. -/

namespace PathPolicy

structure Date where
  year : Nat
  month : Nat
  day : Nat
  deriving Repr, DecidableEq

structure Moment where
  date : Date
  hour : Nat
  minute : Nat
  second : Nat
  micro : Nat
  offset : Option Int
  deriving Repr, DecidableEq

/-- What is wrong with the parts of a date or moment. -/
inductive CalendarFault where
  | year (value : Nat)
  | month
  | day
  | hour
  | minute
  | second
  | offset (seconds : Int)
  deriving Repr, DecidableEq

namespace Date

def isLeap (year : Nat) : Bool := year % 4 == 0 && (year % 100 != 0 || year % 400 == 0)

def daysIn (year month : Nat) : Nat :=
  if month == 2 then if isLeap year then 29 else 28
  else if [4, 6, 9, 11].contains month then 30
  else 31

def make (year month day : Nat) : Except CalendarFault Date :=
  if year == 0 || 9999 < year then .error (.year year)
  else if month == 0 || 12 < month then .error .month
  else if day == 0 || daysIn year month < day then .error .day
  else .ok ⟨year, month, day⟩

end Date

namespace Moment

def make (year month day hour minute second micro : Nat) (offset : Option Int) :
    Except CalendarFault Moment := do
  if let some seconds := offset then
    if 86400 ≤ seconds.natAbs then throw (.offset seconds)
  let date ← Date.make year month day
  if 24 ≤ hour then throw .hour
  if 60 ≤ minute then throw .minute
  if 60 ≤ second then throw .second
  return ⟨date, hour, minute, second, micro, offset⟩

/-- Days from the first of January of year 1. -/
def dayNumber (d : Date) : Nat :=
  let y := d.year - 1
  y * 365 + y / 4 - y / 100 + y / 400 +
    (List.range (d.month - 1)).foldl (fun n m => n + Date.daysIn d.year (m + 1)) 0 + d.day

/-- Microseconds on the clock, at the given offset. -/
def ticks (m : Moment) : Int :=
  ((((dayNumber m.date : Int) * 24 + m.hour) * 60 + m.minute) * 60 + m.second) * 1000000 + m.micro

/-- Two moments with offsets are the same instant; without, the same clock reading. -/
def same (a b : Moment) : Bool :=
  match a.offset, b.offset with
  | some x, some y => a.ticks - x * 1000000 == b.ticks - y * 1000000
  | none, none => a.ticks == b.ticks
  | _, _ => false

end Moment

end PathPolicy
