import ViewModifiers.Text.NameTable

/-!
# Configuration data

The values that a configuration document may hold.
-/

namespace ViewModifiers.Config

open Text

/-- A day by its year, its month and its number in the month. -/
structure Day where
  year : Nat
  month : Nat
  number : Nat
  deriving DecidableEq, Repr, Inhabited

namespace Day

/-- Whether a year has a day more than others. -/
def isLeapYear (year : Nat) : Bool := year % 4 = 0 && (year % 100 ≠ 0 || year % 400 = 0)

/-- How many days a month has. -/
def daysIn (year month : Nat) : Nat :=
  if month = 2 then if isLeapYear year then 29 else 28
  else if [4, 6, 9, 11].contains month then 30
  else 31

/-- Whether the calendar has a day. There is no year zero. -/
def isInCalendar (d : Day) : Bool :=
  1 ≤ d.year && 1 ≤ d.month && d.month ≤ 12 && 1 ≤ d.number && d.number ≤ daysIn d.year d.month

end Day

/-- A time of the day. -/
structure Time where
  hour : Nat
  minute : Nat
  second : Nat
  microsecond : Nat
  deriving DecidableEq, Repr, Inhabited

/-- A point in time: a day, a time of any day, or a time of a day, with the minutes by which it is
ahead of universal time if they are told. -/
inductive Moment
  | day (d : Day)
  | time (t : Time)
  | timeOfDay (d : Day) (t : Time) (ahead : Option Int)
  deriving DecidableEq, Repr, Inhabited

/-- A value of a configuration document. -/
inductive Datum
  | text (s : String)
  | integer (n : Int)
  | decimal (x : Float)
  | flag (b : Bool)
  | moment (m : Moment)
  | list (items : List Datum)
  | table (entries : List (String × Datum))
  deriving Inhabited

/-- A text, if the value is one. -/
def Datum.text? : Datum → Option String
  | text s => some s
  | _ => none

end ViewModifiers.Config
