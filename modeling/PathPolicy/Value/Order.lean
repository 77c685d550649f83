import PathPolicy.Value

/-! The order in which keys are told apart: numbers among themselves by size, texts,
bytes, dates and moments each among themselves. -/

namespace PathPolicy

def Date.before (a b : Date) : Bool :=
  a.year < b.year || (a.year = b.year && (a.month < b.month || (a.month = b.month && a.day < b.day)))

namespace Moment

/-- Microseconds, as a universal time where there is an offset. -/
def instant (m : Moment) : Int := m.ticks - m.offset.getD 0 * 1000000

end Moment

namespace Value

def isText : Value → Bool
  | str _ => true
  | _ => false

/-- Whether the two have an order, and if so, whether the first is less. -/
def less? : Value → Value → Option Bool
  | float x, float y => some (x < y)
  | float x, int n => some ((Number.Double.ofFloat x).ltInt n)
  | int n, float x => some ((Number.Double.ofFloat x).gtInt n)
  | float x, bool b => some ((Number.Double.ofFloat x).ltInt (if b then 1 else 0))
  | bool b, float x => some ((Number.Double.ofFloat x).gtInt (if b then 1 else 0))
  | str a, str b => some (a < b)
  | bytes a, bytes b => some (a.lex b (fun x y => x < y))
  | date a, date b => some (a.before b)
  | moment a, moment b =>
    if a.offset.isSome == b.offset.isSome then some (a.instant < b.instant) else none
  | a, b =>
    match integral? a, integral? b with
    | some m, some n => some (m < n)
    | _, _ => none

def least (first : Value) (rest : List Value) : Value :=
  rest.foldl (fun acc v => if (less? v acc).getD false then v else acc) first

end Value

end PathPolicy
