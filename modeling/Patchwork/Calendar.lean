/-!
# Days and moments

* `Date` is a day of the calendar, `Date.exists?` says which days there are, and `Date.number`
  counts them.
* `DateTime` is a day and a time of day.  Two moments with an offset are the same if they lie at
  the same instant (`DateTime.same`).
-/

set_option autoImplicit false

namespace Patchwork

/-- A day of the calendar. -/
structure Date where
  year : Nat
  month : Nat
  day : Nat
  deriving DecidableEq, Repr, Inhabited

namespace Date

/-- The year has a leap day. -/
def isLeap (year : Nat) : Bool := year % 4 = 0 && (year % 100 ≠ 0 || year % 400 = 0)

/-- The number of days of a month. -/
def daysIn (year month : Nat) : Nat :=
  if month = 2 then (if isLeap year then 29 else 28)
  else if [4, 6, 9, 11].contains month then 30 else 31

/-- There is such a day. -/
def exists? (d : Date) : Bool :=
  1 ≤ d.year && 1 ≤ d.month && d.month ≤ 12 && 1 ≤ d.day && d.day ≤ daysIn d.year d.month

/-- The days of a year before a month of it. -/
def daysBefore (year month : Nat) : Nat :=
  (List.range (month - 1)).foldl (fun days m => days + daysIn year (m + 1)) 0

/-- The number of the day, the first one of the year 1 being 1. -/
def number (d : Date) : Nat :=
  let past := d.year - 1
  365 * past + past / 4 - past / 100 + past / 400 + daysBefore d.year d.month + d.day

end Date

/-- A day and a time of day, with the offset of its zone in minutes if it has one. -/
structure DateTime where
  date : Date
  hour : Nat
  minute : Nat
  second : Nat := 0
  microsecond : Nat := 0
  offset : Option Int := none
  deriving DecidableEq, Repr, Inhabited

namespace DateTime

/-- The minutes up to the moment, in the zone with no offset. -/
def minutes (t : DateTime) (offset : Int) : Int :=
  Int.ofNat (24 * 60 * t.date.number + 60 * t.hour + t.minute) - offset

/-- The moments are the same: the same instant if both have an offset, and the same reading of the
clock if neither has. -/
def same (t u : DateTime) : Bool :=
  match t.offset, u.offset with
  | some a, some b =>
    t.minutes a == u.minutes b && t.second == u.second && t.microsecond == u.microsecond
  | _, _ => decide (t = u)

end DateTime
end Patchwork
