/-!
# Calendar dates

**Input.** Years, months, days, ISO weeks and day numbers of the Gregorian calendar,
extended backwards to year 1.

**Rule.** A date has a year from 1 to 9999 and a day that its month has.  Day 1 is the
first of January of year 1, a Monday.  Week 1 of a year is the week, Monday to Sunday,
that holds its first Thursday; a year has 53 weeks if its first of January is a
Thursday, or a Wednesday in a leap year, and else 52.

**Results.** A date is determined by its three fields (`Date.ext_iff`), and building a
date from the fields of one gives it back (`Date.ofFields?_fields`).
-/

namespace LinkRegistry
namespace Time

/-- The year has a 29th of February. -/
def isLeap (y : Nat) : Bool :=
  y % 4 == 0 && (y % 100 != 0 || y % 400 == 0)

/-- Number of days of a month; a month that does not exist has none. -/
def monthLength (y : Nat) : Nat → Nat
  | 1 | 3 | 5 | 7 | 8 | 10 | 12 => 31
  | 4 | 6 | 9 | 11 => 30
  | 2 => if isLeap y then 29 else 28
  | _ => 0

/-- The fields name a day of the calendar. -/
def IsDay (y m d : Nat) : Prop :=
  1 ≤ y ∧ y ≤ 9999 ∧ 1 ≤ d ∧ d ≤ monthLength y m

instance (y m d : Nat) : Decidable (IsDay y m d) :=
  inferInstanceAs (Decidable (_ ∧ _ ∧ _ ∧ _))

/-- A day of the calendar. -/
@[ext] structure Date where
  /-- From 1 to 9999. -/
  year : Nat
  /-- From 1 to 12. -/
  month : Nat
  /-- From 1 to the length of the month. -/
  day : Nat
  /-- The fields name a day. -/
  isDay : IsDay year month day
  deriving DecidableEq

namespace Date

/-- The date with these fields, if there is such a day. -/
def ofFields? (y m d : Nat) : Option Date :=
  if h : IsDay y m d then some ⟨y, m, d, h⟩ else none

@[simp] theorem ofFields?_fields (a : Date) :
    ofFields? a.year a.month a.day = some a := by
  simp [ofFields?, a.isDay]

/-- Days of the years before `y`. -/
def daysBeforeYear (y : Nat) : Nat :=
  (y - 1) * 365 + (y - 1) / 4 - (y - 1) / 100 + (y - 1) / 400

/-- Days of the months before `m` in year `y`. -/
def daysBeforeMonth (y : Nat) : Nat → Nat
  | 0 => 0
  | m + 1 => daysBeforeMonth y m + monthLength y m

/-- Number of the day that the fields name. -/
def dayNumberOf (y m d : Nat) : Nat :=
  daysBeforeYear y + daysBeforeMonth y m + d

/-- Number of the day, counted from 1. -/
def dayNumber (a : Date) : Nat :=
  dayNumberOf a.year a.month a.day

/-- Month and day of the day `k` days after the first day of the first listed month. -/
def monthDay? (y : Nat) : List Nat → Nat → Option (Nat × Nat)
  | [], _ => none
  | m :: ms, k =>
      if k < monthLength y m then some (m, k + 1)
      else monthDay? y ms (k - monthLength y m)

/-- The year that holds a day, and the days of that year before it. -/
def yearAndOffset (n : Nat) : Nat × Nat :=
  let k := n - 1
  let c4 := k / 146097
  let r4 := k % 146097
  let c1 := min (r4 / 36524) 3
  let r1 := r4 - c1 * 36524
  let q := r1 / 1461
  let rq := r1 % 1461
  let s := min (rq / 365) 3
  (c4 * 400 + c1 * 100 + q * 4 + s + 1, rq - s * 365)

/-- The date with this day number. -/
def ofDayNumber? (n : Nat) : Option Date :=
  let (y, k) := yearAndOffset n
  (monthDay? y [1, 2, 3, 4, 5, 6, 7, 8, 9, 10, 11, 12] k).bind fun (m, d) =>
    ofFields? y m d

/-- Day of the week, Monday being 0. -/
def weekday (n : Nat) : Nat :=
  (n + 6) % 7

/-- Number of the Monday of week 1. -/
def firstMonday (y : Nat) : Nat :=
  let jan1 := dayNumberOf y 1 1
  let w := weekday jan1
  if 3 < w then jan1 - w + 7 else jan1 - w

/-- Number of ISO weeks of a year. -/
def weeksIn (y : Nat) : Nat :=
  let w := weekday (dayNumberOf y 1 1)
  if w = 3 ∨ (w = 2 ∧ isLeap y) then 53 else 52

/-- The date that an ISO year, week and day of the week (Monday being 1) name. -/
def ofWeek? (y w d : Nat) : Option Date :=
  if 1 ≤ y ∧ y ≤ 9999 ∧ 1 ≤ w ∧ w ≤ weeksIn y ∧ 1 ≤ d ∧ d ≤ 7 then
    ofDayNumber? (firstMonday y + (w - 1) * 7 + (d - 1))
  else none

end Date
end Time
end LinkRegistry
