import CommonPurse.Time.Calendar
import Mathlib.Tactic.IntervalCases
import Mathlib.Tactic.Lemma

/-!
# Days and dates

A day number and the date that it has determine each other. Dates are found by arithmetic on
cycles of 400 years; here they are taken apart into centuries, cycles of four years, years and
days, which is what the arithmetic amounts to.

## Main definitions

* `CommonPurse.Calendar.EraDay` — a day inside a cycle of 400 years, taken apart.

## Main results

* `CommonPurse.Calendar.dayNumber_civil` — the date of a day has the number of the day.
* `CommonPurse.Calendar.isDay_civil` — from year 1 to year 9999 it is a date that is read.
* `CommonPurse.Calendar.dayNumber_range` — no other dates are read.
-/

namespace CommonPurse.Calendar

/-- The day with number `doe` inside a cycle of 400 years that begins in March, taken apart:
`century` full centuries, `cycle` full cycles of four years behind them, `year` full years behind
those, and `day` days behind all of them. Only a year that ends with a leap day has 366 days. -/
structure EraDay (doe : Int) where
  century : Int
  cycle : Int
  year : Int
  day : Int
  century_bound : 0 ≤ century ∧ century ≤ 3
  cycle_bound : 0 ≤ cycle ∧ cycle ≤ 24
  year_bound : 0 ≤ year ∧ year ≤ 3
  day_bound : 0 ≤ day ∧ day ≤ 365
  leap : day = 365 → year = 3 ∧ (cycle < 24 ∨ century = 3)
  sum : doe = 36524 * century + 1461 * cycle + 365 * year + day

/-- Every day inside a cycle of 400 years can be taken apart: the divisions are carried out from
the centuries down, and the last century and the last of four years take one more day. -/
def eraDay (doe : Int) (h : 0 ≤ doe ∧ doe < 146097) : EraDay doe where
  century := min (doe / 36524) 3
  cycle := (doe - 36524 * min (doe / 36524) 3) / 1461
  year := min ((doe - 36524 * min (doe / 36524) 3) % 1461 / 365) 3
  day := (doe - 36524 * min (doe / 36524) 3) % 1461 -
    365 * min ((doe - 36524 * min (doe / 36524) 3) % 1461 / 365) 3
  century_bound := by omega
  cycle_bound := by omega
  year_bound := by omega
  day_bound := by omega
  leap := by omega
  sum := by omega

namespace EraDay

variable {doe : Int} (e : EraDay doe)

/-- The number of full years before the day. -/
def years : Int := 100 * e.century + 4 * e.cycle + e.year

/-- **The year of a day inside a cycle.** The corrections for leap days that the division is
preceded by are those for the cycles and the centuries before the day. -/
lemma years_eq : (doe - doe / 1460 + doe / 36524 - doe / 146096) / 365 = e.years := by
  obtain ⟨c, q, y, t, hc, hq, hy, ht, leap, sum⟩ := e
  have centuries : doe / 36524 - doe / 146096 = c := by
    have rest : 1461 * q + 365 * y + t ≤ 36523 ∨ doe = 146096 := by omega
    rcases rest with rest | rest
    · have century : doe / 36524 = c := by omega
      have cycle : doe / 146096 = 0 := by omega
      omega
    · have century : c = 3 := by omega
      omega
  have cycles : doe / 1460 = 25 * c + q + (24 * c + q + 365 * y + t) / 1460 := by omega
  have few : 0 ≤ (24 * c + q + 365 * y + t) / 1460 ∧
      (24 * c + q + 365 * y + t) / 1460 ≤ 1 := by omega
  have late : (24 * c + q + 365 * y + t) / 1460 = 1 → 0 < t := by omega
  have full : t = 365 → (24 * c + q + 365 * y + t) / 1460 = 1 := by omega
  generalize (24 * c + q + 365 * y + t) / 1460 = δ at *
  simp only [years]
  omega

/-- The days before the year of a day are those of the full years and their leap days. -/
lemma day_eq :
    doe - (365 * e.years + e.years / 4 - e.years / 100) = e.day := by
  obtain ⟨c, q, y, t, hc, hq, hy, ht, leap, sum⟩ := e
  have four : (100 * c + 4 * q + y) / 4 = 25 * c + q := by omega
  have hundred : (100 * c + 4 * q + y) / 100 = c := by omega
  simp only [years, four, hundred]
  omega

lemma years_bound : 0 ≤ e.years ∧ e.years ≤ 399 := by
  obtain ⟨c, q, y, t, hc, hq, hy, ht, leap, sum⟩ := e
  simp only [years]
  omega

end EraDay

/-! ## Months -/

/-- The number of a month counted from March, for a day counted from the first of March. -/
def monthFromMarch (t : Int) : Int := (5 * t + 2) / 153

/-- The day inside its month, counted from one. -/
def dayOfMonth (t : Int) : Int := t - (153 * monthFromMarch t + 2) / 5 + 1

/-- The number of a month counted from January. -/
def monthFromJanuary (t : Int) : Int :=
  if monthFromMarch t < 10 then monthFromMarch t + 3 else monthFromMarch t - 9

lemma month_bound {t : Int} (h : 0 ≤ t ∧ t ≤ 365) :
    0 ≤ monthFromMarch t ∧ monthFromMarch t ≤ 11 := by
  unfold monthFromMarch
  omega

lemma dayOfMonth_pos (t : Int) : 1 ≤ dayOfMonth t := by
  unfold dayOfMonth monthFromMarch
  omega

/-- A day lies inside its month: the months from March on have 31 and 30 days in turn, beginning
anew with August and with January, and February is cut off by the end of the year. -/
lemma dayOfMonth_le {t : Int} (h : 0 ≤ t ∧ t ≤ 365) (y : Int)
    (leap : t = 365 → isLeap y = true) :
    dayOfMonth t ≤ daysIn y (monthFromJanuary t).toNat := by
  have month := month_bound h
  have hm : monthFromMarch t = (5 * t + 2) / 153 := rfl
  unfold dayOfMonth monthFromJanuary
  generalize monthFromMarch t = m at *
  obtain ⟨low, high⟩ := month
  by_cases feb : m = 11
  · subst feb
    by_cases last : t = 365
    · simp [daysIn, leap last, last]
    · have two : (if (11 : Int) < 10 then (11 : Int) + 3 else 11 - 9).toNat = 2 := by decide
      rw [two, daysIn, if_pos rfl]
      split <;> omega
  · interval_cases m <;> simp [daysIn] <;> omega

lemma monthFromJanuary_bound {t : Int} (h : 0 ≤ t ∧ t ≤ 365) :
    1 ≤ monthFromJanuary t ∧ monthFromJanuary t ≤ 12 := by
  have month := month_bound h
  unfold monthFromJanuary
  split <;> omega

/-! ## Dates -/

/-- **The date of a day.** -/
lemma civil_eq (n : Int) (e : EraDay (n + 719468 - Int.fdiv (n + 719468) 146097 * 146097)) :
    civil n =
      (if monthFromJanuary e.day ≤ 2 then e.years + Int.fdiv (n + 719468) 146097 * 400 + 1
        else e.years + Int.fdiv (n + 719468) 146097 * 400,
        (monthFromJanuary e.day).toNat, (dayOfMonth e.day).toNat) := by
  unfold civil
  simp only [e.years_eq, e.day_eq]
  rfl

/-- The number of a day from its year, counted from March inside a cycle of 400 years, and from
the days since the first of March. -/
lemma dayNumber_eq {yoe t : Int} (era : Int) (hy : 0 ≤ yoe ∧ yoe ≤ 399) (ht : 0 ≤ t ∧ t ≤ 365) :
    dayNumber
        (if monthFromJanuary t ≤ 2 then yoe + era * 400 + 1 else yoe + era * 400)
        (monthFromJanuary t).toNat (dayOfMonth t).toNat =
      era * 146097 + (yoe * 365 + yoe / 4 - yoe / 100 + t) - 719468 := by
  have month := month_bound ht
  have day := dayOfMonth_pos t
  have hd : ((dayOfMonth t).toNat : Int) = t - (153 * monthFromMarch t + 2) / 5 + 1 := by
    rw [Int.toNat_of_nonneg (by omega), dayOfMonth]
  have cycle : Int.fdiv (yoe + era * 400) 400 = era := by
    rw [Int.fdiv_eq_ediv_of_nonneg _ (by decide)]
    omega
  unfold dayNumber
  rw [hd]
  unfold monthFromJanuary
  generalize monthFromMarch t = m at *
  by_cases early : m < 10
  · have after : ¬(m + 3 ≤ 2) := by omega
    have after' : ¬((m + 3).toNat ≤ 2) := by omega
    have march : 2 < (m + 3).toNat := by omega
    have back : ((m + 3).toNat : Int) - 3 = m := by omega
    simp only [early, after, after', march, back, cycle, if_true, if_false]
    omega
  · have before : m - 9 ≤ 2 := by omega
    have before' : (m - 9).toNat ≤ 2 := by omega
    have january : ¬(2 < (m - 9).toNat) := by omega
    have back : ((m - 9).toNat : Int) + 9 = m := by omega
    have year : yoe + era * 400 + 1 - 1 = yoe + era * 400 := by omega
    simp only [early, before, before', january, back, year, cycle, if_true, if_false]
    omega

/-- **The date of a day has the number of the day.** -/
theorem dayNumber_civil (n : Int) :
    dayNumber (civil n).1 (civil n).2.1 (civil n).2.2 = n := by
  have inside : 0 ≤ n + 719468 - Int.fdiv (n + 719468) 146097 * 146097 ∧
      n + 719468 - Int.fdiv (n + 719468) 146097 * 146097 < 146097 := by
    rw [Int.fdiv_eq_ediv_of_nonneg _ (by decide)]
    omega
  let e := eraDay _ inside
  have day := e.day_eq
  rw [civil_eq n e, dayNumber_eq _ e.years_bound e.day_bound]
  omega

/-- The year in which a year that begins in March ends is a leap year when it has 366 days. -/
lemma EraDay.isLeap_of_last {doe : Int} (e : EraDay doe) (era : Int) (h : e.day = 365) :
    isLeap (e.years + era * 400 + 1) = true := by
  obtain ⟨year, late⟩ := e.leap h
  have century := e.century_bound
  have cycle := e.cycle_bound
  have four : (e.years + era * 400 + 1) % 4 = 0 := by
    simp only [years]
    omega
  have hundred : (e.years + era * 400 + 1) % 100 ≠ 0 ∨ (e.years + era * 400 + 1) % 400 = 0 := by
    simp only [years]
    omega
  simpa [isLeap, four] using hundred

/-- **From the first day of year 1 to the last of year 9999, dates are those that are read.** -/
theorem isDay_civil {n : Int} (h : -719162 ≤ n ∧ n ≤ 2932896) :
    0 ≤ (civil n).1 ∧ isDay (civil n).1.toNat (civil n).2.1 (civil n).2.2 = true := by
  have inside : 0 ≤ n + 719468 - Int.fdiv (n + 719468) 146097 * 146097 ∧
      n + 719468 - Int.fdiv (n + 719468) 146097 * 146097 < 146097 := by
    rw [Int.fdiv_eq_ediv_of_nonneg _ (by decide)]
    omega
  let e := eraDay _ inside
  have sum := e.day_eq
  have years := e.years_bound
  have days := e.day_bound
  have month := monthFromJanuary_bound days
  have first := dayOfMonth_pos e.day
  have spring : monthFromJanuary e.day ≤ 2 ↔ 306 ≤ e.day := by
    unfold monthFromJanuary monthFromMarch
    split <;> omega
  have february : e.day = 365 → monthFromJanuary e.day ≤ 2 := by omega
  have last := fun y leap => dayOfMonth_le days y leap
  have leap := e.isLeap_of_last (Int.fdiv (n + 719468) 146097)
  rw [civil_eq n e]
  generalize Int.fdiv (n + 719468) 146097 = era at *
  generalize e.years = yoe at *
  generalize e.day = t at *
  have year : 1 ≤ (if monthFromJanuary t ≤ 2 then yoe + era * 400 + 1 else yoe + era * 400) ∧
      (if monthFromJanuary t ≤ 2 then yoe + era * 400 + 1 else yoe + era * 400) ≤ 9999 := by
    have low : 0 ≤ era := by omega
    have high : era ≤ 24 := by omega
    split <;> omega
  have inMonth := last
    (if monthFromJanuary t ≤ 2 then yoe + era * 400 + 1 else yoe + era * 400) (by
      intro ht
      rw [if_pos (february ht)]
      exact leap ht)
  generalize (if monthFromJanuary t ≤ 2 then yoe + era * 400 + 1 else yoe + era * 400) = y at *
  refine ⟨by omega, ?_⟩
  have cast : (y.toNat : Int) = y := Int.toNat_of_nonneg (by omega)
  simp only [isDay, cast, Bool.and_eq_true, decide_eq_true_eq]
  omega

/-- A date that is read lies from the first day of year 1 to the last of year 9999. -/
theorem dayNumber_range {y m d : Nat} (h : isDay y m d = true) :
    -719162 ≤ dayNumber y m d ∧ dayNumber y m d ≤ 2932896 := by
  have long : daysIn y m ≤ 31 := by
    unfold daysIn
    split_ifs <;> omega
  simp only [isDay, Bool.and_eq_true, decide_eq_true_eq] at h
  unfold dayNumber
  dsimp only
  by_cases winter : m ≤ 2
  · have spring : ¬2 < m := by omega
    rw [if_pos winter, if_neg spring, Int.fdiv_eq_ediv_of_nonneg _ (by decide)]
    omega
  · have spring : 2 < m := by omega
    rw [if_neg winter, if_pos spring, Int.fdiv_eq_ediv_of_nonneg _ (by decide)]
    omega

end CommonPurse.Calendar
