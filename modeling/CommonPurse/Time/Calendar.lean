/-!
# The calendar

Days of the Gregorian calendar, counted from the first of January 1970.

## Main definitions

* `CommonPurse.Calendar.dayNumber` — the number of a day from its year, month and day.
* `CommonPurse.Calendar.civil` — the year, month and day of a day number.
* `CommonPurse.Calendar.daysIn` — the length of a month.
-/

namespace CommonPurse.Calendar

/-- Whether a year has a 29th of February. -/
def isLeap (y : Int) : Bool :=
  y % 4 == 0 && (y % 100 != 0 || y % 400 == 0)

/-- The number of days in a month. -/
def daysIn (y : Int) (m : Nat) : Nat :=
  if m = 2 then if isLeap y then 29 else 28
  else if m = 4 ∨ m = 6 ∨ m = 9 ∨ m = 11 then 30
  else 31

/-- The number of a day. Years are counted from March, so that the leap day is the last one, in
cycles of 400 years. -/
def dayNumber (y : Int) (m d : Nat) : Int :=
  let y := if m ≤ 2 then y - 1 else y
  let era := Int.fdiv y 400
  let yoe := y - era * 400
  let mp : Int := if 2 < m then (m : Int) - 3 else (m : Int) + 9
  let doy := (153 * mp + 2) / 5 + (d : Int) - 1
  let doe := yoe * 365 + yoe / 4 - yoe / 100 + doy
  era * 146097 + doe - 719468

/-- The year, month and day of a day number. -/
def civil (n : Int) : Int × Nat × Nat :=
  let z := n + 719468
  let era := Int.fdiv z 146097
  let doe := z - era * 146097
  let yoe := (doe - doe / 1460 + doe / 36524 - doe / 146096) / 365
  let doy := doe - (365 * yoe + yoe / 4 - yoe / 100)
  let mp := (5 * doy + 2) / 153
  let d := doy - (153 * mp + 2) / 5 + 1
  let m := if mp < 10 then mp + 3 else mp - 9
  let y := yoe + era * 400
  (if m ≤ 2 then y + 1 else y, m.toNat, d.toNat)

/-- Whether year, month and day name a day from the first of January of year 1 to the last of
December of year 9999. -/
def isDay (y m d : Nat) : Bool :=
  1 ≤ y && y ≤ 9999 && 1 ≤ m && m ≤ 12 && 1 ≤ d && d ≤ daysIn y m

end CommonPurse.Calendar
