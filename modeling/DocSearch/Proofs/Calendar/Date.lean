import Mathlib
import DocSearch.Calendar
/-!
# Days and dates

A year is counted from March here, so that a leap day is its last one, and named after the year in
which it begins. Day 0 of this count is the first of March of year 0.

* `daysBefore`, `daysBeforeMonth`: the days in front of a year, and in front of a month of a year.
* `YearParts`: a day of a cycle of 400 years in centuries, spans of four years, years and days; with
  it `yearOfCycle_bounds`: the year of a day of a cycle.
* `Counted`: year, month and day of the month of a day, which `Counted.unique` are all there are.
* `Day.isValid_date`, **`Day.toDay_date`**, **`Date.date_toDay`**: days and dates of the calendar belong
  together one to one.
* `Date.next`, **`Day.date_succ`**: the day after has the next date of the calendar.
* `Date.Before`, **`Date.toDay_lt_iff`**: days follow one another as their dates do.
-/

namespace DocSearch

/-! ## Years and months -/

/-- The days in front of a year. -/
def daysBefore (year : Int) : Int := 365 * year + year / 4 - year / 100 + year / 400

/-- The days of a year in front of a month, March being month 0. -/
def daysBeforeMonth (month : Int) : Int := (153 * month + 2) / 5

/-- **A year ends with a leap day exactly if the next one is a leap year.** -/
theorem daysBefore_succ (year : Int) :
    daysBefore (year + 1) = daysBefore year + if isLeapYear (year + 1) then 366 else 365 := by
  simp only [daysBefore, isLeapYear, Bool.and_eq_true, Bool.or_eq_true, decide_eq_true_eq]
  split_ifs <;> omega

theorem daysBefore_mono {y y' : Int} (h : y ≤ y') : daysBefore y ≤ daysBefore y' := by
  unfold daysBefore
  omega

theorem daysBefore_add_cycles (y c : Int) :
    daysBefore (y + c * 400) = daysBefore y + c * 146097 := by
  unfold daysBefore
  omega

/-- A day of a cycle lies in a century, in a span of four years of it, and in a year of that. -/
structure YearParts (n c s y d : Int) : Prop where
  century : 0 ≤ c ∧ c ≤ 3
  span : 0 ≤ s ∧ s ≤ 24
  year : 0 ≤ y ∧ y ≤ 3
  day : 0 ≤ d ∧ (d ≤ 364 ∨ d = 365 ∧ y = 3 ∧ (s ≤ 23 ∨ c = 3))
  eq : n = 36524 * c + 1461 * s + 365 * y + d

theorem exists_yearParts {n : Int} (h : 0 ≤ n) (h' : n < 146097) :
    ∃ c s y d, YearParts n c s y d := by
  -- The last century and the last year of four are longer than the others.
  obtain ⟨c, r, hc, hr, rfl⟩ : ∃ c r : Int, (0 ≤ c ∧ c ≤ 3) ∧
      (0 ≤ r ∧ (r ≤ 36523 ∨ r = 36524 ∧ c = 3)) ∧ n = 36524 * c + r := by
    by_cases hlast : n = 146096
    · exact ⟨3, 36524, by omega⟩
    · exact ⟨n / 36524, n % 36524, by omega⟩
  obtain ⟨y, d, hy, hd, hr'⟩ : ∃ y d : Int, (0 ≤ y ∧ y ≤ 3) ∧
      (0 ≤ d ∧ (d ≤ 364 ∨ d = 365 ∧ y = 3)) ∧ r % 1461 = 365 * y + d := by
    by_cases hlast : r % 1461 = 1460
    · exact ⟨3, 365, by omega⟩
    · exact ⟨r % 1461 / 365, r % 1461 % 365, by omega⟩
  exact ⟨c, r / 1461, y, d, hc, by omega, hy, by omega, by omega⟩

/-- The year of a day of a cycle. -/
def yearOfCycle (n : Int) : Int := (n - n / 1460 + n / 36524 - n / 146096) / 365

theorem YearParts.yearOfCycle {n c s y d : Int} (h : YearParts n c s y d) :
    yearOfCycle n = 100 * c + 4 * s + y := by
  obtain ⟨hc, hs, hy, hd, rfl⟩ := h
  have hlast : 1461 * s + 365 * y + d ≤ 36523 ∨ c = 3 ∧ s = 24 ∧ y = 3 ∧ d = 365 := by omega
  rcases hlast with hlast | ⟨rfl, rfl, rfl, rfl⟩
  · have hcentury : (36524 * c + 1461 * s + 365 * y + d) / 36524 = c := by omega
    have hcycle : (36524 * c + 1461 * s + 365 * y + d) / 146096 = 0 := by omega
    unfold DocSearch.yearOfCycle
    omega
  · rfl

theorem YearParts.bounds {n c s y d : Int} (h : YearParts n c s y d) :
    daysBefore (100 * c + 4 * s + y) ≤ n ∧ n < daysBefore (100 * c + 4 * s + y + 1) := by
  obtain ⟨hc, hs, hy, hd, rfl⟩ := h
  have hfour : (100 * c + 4 * s + y) / 4 = 25 * c + s := by omega
  have hhundred : (100 * c + 4 * s + y) / 100 = c := by omega
  unfold daysBefore
  constructor
  · omega
  · omega

/-- **A day of a cycle lies in its year.** -/
theorem yearOfCycle_bounds {n : Int} (h : 0 ≤ n) (h' : n < 146097) :
    (0 ≤ yearOfCycle n ∧ yearOfCycle n ≤ 399) ∧ daysBefore (yearOfCycle n) ≤ n ∧
      n < daysBefore (yearOfCycle n + 1) := by
  obtain ⟨c, s, y, d, hparts⟩ := exists_yearParts h h'
  have hbounds := hparts.bounds
  rw [hparts.yearOfCycle]
  obtain ⟨hc, hs, hy, -, -⟩ := hparts
  exact ⟨by omega, hbounds⟩

/-- The days of its year in front of a day of a cycle. -/
def dayOfYear (n : Int) : Int := n - daysBefore (yearOfCycle n)

theorem dayOfYear_bounds {n : Int} (h : 0 ≤ n) (h' : n < 146097) :
    0 ≤ dayOfYear n ∧ dayOfYear n ≤ 365 := by
  obtain ⟨-, hfirst, hlast⟩ := yearOfCycle_bounds h h'
  rw [daysBefore_succ] at hlast
  unfold dayOfYear
  split_ifs at hlast <;> omega

/-- The month of a day of a year. -/
def monthOfYear (n : Int) : Int := (5 * n + 2) / 153

theorem monthOfYear_bounds {n : Int} (h : 0 ≤ n) (h' : n ≤ 365) :
    (0 ≤ monthOfYear n ∧ monthOfYear n ≤ 11) ∧ daysBeforeMonth (monthOfYear n) ≤ n ∧
      n < daysBeforeMonth (monthOfYear n + 1) := by
  unfold monthOfYear daysBeforeMonth
  omega

/-! ## Days in years and months -/

/-- Day `n` lies in year `y` and in month `m` of it, with `d` days of the month in front of it. -/
structure Counted (n y m d : Int) : Prop where
  month : 0 ≤ m ∧ m ≤ 11
  day : 0 ≤ d ∧ daysBeforeMonth m + d < daysBeforeMonth (m + 1)
  year : daysBefore y + daysBeforeMonth m + d < daysBefore (y + 1)
  eq : n = daysBefore y + daysBeforeMonth m + d

theorem daysBeforeMonth_mono {m m' : Int} (h : m ≤ m') : daysBeforeMonth m ≤ daysBeforeMonth m' := by
  unfold daysBeforeMonth
  omega

theorem Counted.year_le {n y m d : Int} (h : Counted n y m d) : daysBefore y ≤ n := by
  have hmonth : 0 ≤ daysBeforeMonth m := by
    have := h.month
    unfold daysBeforeMonth
    omega
  have := h.day
  have := h.eq
  omega

/-- **A later year, month or day is a later day.** -/
theorem Counted.lt {n n' y y' m m' d d' : Int} (h : Counted n y m d) (h' : Counted n' y' m' d')
    (hlt : y < y' ∨ y = y' ∧ (m < m' ∨ m = m' ∧ d < d')) : n < n' := by
  have hn := h.eq
  have hn' := h'.eq
  rcases hlt with hy | ⟨rfl, hm | ⟨rfl, hd⟩⟩
  · have := daysBefore_mono hy
    have := h.year
    have := h'.year_le
    omega
  · have := daysBeforeMonth_mono hm
    have := h.day
    have := h'.day
    omega
  · omega

theorem Counted.unique {n y y' m m' d d' : Int} (h : Counted n y m d) (h' : Counted n y' m' d') :
    y = y' ∧ m = m' ∧ d = d' := by
  by_contra hne
  have hlt : (y < y' ∨ y = y' ∧ (m < m' ∨ m = m' ∧ d < d')) ∨
      (y' < y ∨ y' = y ∧ (m' < m ∨ m' = m ∧ d' < d)) := by omega
  rcases hlt with hlt | hlt
  · exact lt_irrefl n (h.lt h' hlt)
  · exact lt_irrefl n (h'.lt h hlt)

/-! ## Dates -/

namespace Date

/-- The year of a date, counted from March. -/
def marchYear (v : Date) : Int := if v.month ≤ 2 then v.year - 1 else v.year

/-- The month of a date, counted from March. -/
def marchMonth (v : Date) : Int := (v.month + 9 : Int) % 12

/-- The date of day `d + 1` of a month, counted from March. -/
def ofMarch (y m d : Int) : Date :=
  ⟨if m < 10 then y else y + 1, (if m < 10 then m + 3 else m - 9).toNat, (d + 1).toNat⟩

variable {v : Date}

theorem isValid_iff :
    v.isValid = true ↔ (1 ≤ v.month ∧ v.month ≤ 12) ∧ 1 ≤ v.day ∧ v.day ≤ monthLength v.year v.month := by
  simp [isValid, and_assoc]

theorem number_toDay (v : Date) :
    v.toDay.number = daysBefore v.marchYear + daysBeforeMonth v.marchMonth + (v.day - 1) - 719468 := by
  unfold toDay daysBefore marchYear daysBeforeMonth marchMonth
  simp only [Int.fdiv_eq_ediv_of_nonneg _ (show (0 : Int) ≤ 400 by decide),
    Int.fmod_eq_emod_of_nonneg _ (show (0 : Int) ≤ 400 by decide)]
  split_ifs <;> omega

/-- The length of a month, counted from March. -/
theorem le_monthLength_iff (h : 1 ≤ v.month ∧ v.month ≤ 12) :
    v.day ≤ monthLength v.year v.month ↔
      daysBeforeMonth v.marchMonth + (v.day - 1) < daysBeforeMonth (v.marchMonth + 1) ∧
      daysBefore v.marchYear + daysBeforeMonth v.marchMonth + (v.day - 1) <
        daysBefore (v.marchYear + 1) := by
  obtain ⟨year, month, day⟩ := v
  obtain ⟨hlow, hhigh⟩ := h
  rw [daysBefore_succ]
  simp only at hlow hhigh
  interval_cases month <;>
    simp [monthLength, marchMonth, marchYear, daysBeforeMonth] <;>
    split_ifs <;> omega

theorem counted_toDay (h : v.isValid = true) :
    Counted (v.toDay.number + 719468) v.marchYear v.marchMonth (v.day - 1) := by
  obtain ⟨hm, hd, hl⟩ := isValid_iff.mp h
  have hn := number_toDay v
  obtain ⟨hmonth, hyear⟩ := (le_monthLength_iff hm).mp hl
  refine ⟨?_, ⟨by omega, hmonth⟩, hyear, by omega⟩
  unfold marchMonth
  omega

theorem ofMarch_march (h : v.isValid = true) : ofMarch v.marchYear v.marchMonth (v.day - 1) = v := by
  obtain ⟨hm, hd, -⟩ := isValid_iff.mp h
  obtain ⟨y, m, d⟩ := v
  simp only [ofMarch, marchYear, marchMonth, Date.mk.injEq] at *
  split_ifs <;> omega

variable {n y m d : Int}

theorem marchYear_ofMarch (h : Counted n y m d) : (ofMarch y m d).marchYear = y := by
  have := h.month
  simp only [ofMarch, marchYear]
  split_ifs <;> omega

theorem marchMonth_ofMarch (h : Counted n y m d) : (ofMarch y m d).marchMonth = m := by
  have := h.month
  simp only [ofMarch, marchMonth]
  split_ifs <;> omega

theorem isValid_ofMarch (h : Counted n y m d) : (ofMarch y m d).isValid = true := by
  have hmonth := h.month
  have hday := h.day
  have hm : 1 ≤ (ofMarch y m d).month ∧ (ofMarch y m d).month ≤ 12 := by
    simp only [ofMarch]
    split_ifs <;> omega
  have hd : ((ofMarch y m d).day : Int) = d + 1 := Int.toNat_of_nonneg (by omega)
  refine isValid_iff.mpr ⟨hm, by omega, (le_monthLength_iff hm).mpr ?_⟩
  rw [marchYear_ofMarch h, marchMonth_ofMarch h, hd, add_sub_cancel_right]
  exact ⟨hday.2, h.year⟩

end Date

namespace Day

theorem date_eq (d : Day) {n c : Int} (hn : (d.number + 719468) % 146097 = n)
    (hc : (d.number + 719468) / 146097 = c) :
    d.date = Date.ofMarch (yearOfCycle n + c * 400) (monthOfYear (dayOfYear n))
      (dayOfYear n - daysBeforeMonth (monthOfYear (dayOfYear n))) := by
  obtain ⟨hnonneg, hle⟩ := dayOfYear_bounds (n := n) (by omega) (by omega)
  have hmonth := (monthOfYear_bounds hnonneg hle).1
  have hyear : daysBefore (yearOfCycle n) =
      365 * yearOfCycle n + yearOfCycle n / 4 - yearOfCycle n / 100 := by
    have hcycle := (yearOfCycle_bounds (n := n) (by omega) (by omega)).1
    unfold daysBefore
    omega
  unfold dayOfYear monthOfYear at *
  unfold date Date.ofMarch daysBeforeMonth
  simp only [Int.fdiv_eq_ediv_of_nonneg _ (show (0 : Int) ≤ 146097 by decide),
    Int.fmod_eq_emod_of_nonneg _ (show (0 : Int) ≤ 146097 by decide), hn, hc, hyear] at hmonth ⊢
  unfold yearOfCycle at hmonth ⊢
  simp only [Date.mk.injEq, and_true]
  split_ifs <;> omega

/-- **The date of a day is that of the year, month and day of the month in which it lies.** -/
theorem exists_counted (d : Day) :
    ∃ y m k, Counted (d.number + 719468) y m k ∧ d.date = Date.ofMarch y m k := by
  have hsplit := Int.mul_ediv_add_emod (d.number + 719468) 146097
  obtain ⟨n, hn⟩ : ∃ n, (d.number + 719468) % 146097 = n := ⟨_, rfl⟩
  obtain ⟨c, hc⟩ : ∃ c, (d.number + 719468) / 146097 = c := ⟨_, rfl⟩
  rw [hn, hc] at hsplit
  have hdate := d.date_eq hn hc
  obtain ⟨-, -, hlast⟩ := yearOfCycle_bounds (n := n) (by omega) (by omega)
  obtain ⟨hnonneg, hle⟩ := dayOfYear_bounds (n := n) (by omega) (by omega)
  obtain ⟨hmonth, hbefore, hbehind⟩ := monthOfYear_bounds hnonneg hle
  have hyear := daysBefore_add_cycles (yearOfCycle n) c
  have hnext : daysBefore (yearOfCycle n + c * 400 + 1) = daysBefore (yearOfCycle n + 1) + c * 146097 := by
    rw [add_right_comm, daysBefore_add_cycles]
  have hday : n = daysBefore (yearOfCycle n) + dayOfYear n := by
    unfold dayOfYear
    omega
  exact ⟨_, _, _, ⟨hmonth, by omega, by omega, by omega⟩, hdate⟩

theorem isValid_date (d : Day) : d.date.isValid = true := by
  obtain ⟨y, m, k, hc, hdate⟩ := d.exists_counted
  rw [hdate]
  exact Date.isValid_ofMarch hc

end Day

/-- **The day of the date of a day is that day.** -/
theorem Day.toDay_date (d : Day) : d.date.toDay = d := by
  obtain ⟨y, m, k, hc, hdate⟩ := d.exists_counted
  have hn := Date.number_toDay d.date
  have hd : ((Date.ofMarch y m k).day : Int) = k + 1 := Int.toNat_of_nonneg (by have := hc.day; omega)
  rw [hdate, Date.marchYear_ofMarch hc, Date.marchMonth_ofMarch hc, hd] at hn
  have := hc.eq
  have hnum : d.date.toDay.number = d.number := by
    rw [hdate]
    omega
  exact congrArg Day.mk hnum

theorem Date.date_toDay {v : Date} (h : v.isValid = true) : v.toDay.date = v := by
  obtain ⟨y, m, k, hc, hdate⟩ := v.toDay.exists_counted
  obtain ⟨rfl, rfl, rfl⟩ := hc.unique (Date.counted_toDay h)
  rw [hdate, Date.ofMarch_march h]

/-- The leap day of a century, and the day in front of day 0. -/
example : (⟨11016⟩ : Day).date = ⟨2000, 2, 29⟩ ∧ (⟨-1⟩ : Day).date = ⟨1969, 12, 31⟩ := by
  decide

/-! ## The calendar -/

namespace Date

variable {v w : Date}

theorem one_le_monthLength (year : Int) (month : Nat) : 1 ≤ monthLength year month := by
  unfold monthLength
  split_ifs <;> decide

theorem isValid_first (year : Int) {month : Nat} (h : 1 ≤ month ∧ month ≤ 12) :
    (⟨year, month, 1⟩ : Date).isValid = true :=
  isValid_iff.mpr ⟨h, le_rfl, one_le_monthLength year month⟩

/-- The date behind a date in the calendar. -/
def next (v : Date) : Date :=
  if v.day < monthLength v.year v.month then { v with day := v.day + 1 }
  else if v.month < 12 then ⟨v.year, v.month + 1, 1⟩
  else ⟨v.year + 1, 1, 1⟩

theorem isValid_next (h : v.isValid = true) : v.next.isValid = true := by
  obtain ⟨hm, hd, hl⟩ := isValid_iff.mp h
  unfold next
  split_ifs with hday hmonth
  · exact isValid_iff.mpr ⟨hm, by simp, hday⟩
  · exact isValid_first v.year (by omega)
  · exact isValid_first (v.year + 1) (by omega)

theorem number_toDay_next (h : v.isValid = true) : v.next.toDay.number = v.toDay.number + 1 := by
  obtain ⟨⟨hlow, hhigh⟩, hd, hl⟩ := isValid_iff.mp h
  rw [number_toDay, number_toDay]
  unfold next
  split_ifs with hday hmonth
  · simp only [marchYear, marchMonth]
    omega
  -- The last day of a month; only behind the last one of February a year counted from March begins.
  · obtain ⟨year, month, day⟩ := v
    simp only at hlow hhigh hl hday hmonth
    obtain rfl : day = monthLength year month := by omega
    have hyear := daysBefore_succ (year - 1)
    rw [sub_add_cancel] at hyear
    interval_cases month <;>
      simp [monthLength, marchMonth, marchYear, daysBeforeMonth] <;>
      split_ifs at hyear ⊢ <;> omega
  · obtain ⟨year, month, day⟩ := v
    simp only at hhigh hl hday hmonth
    obtain rfl : month = 12 := by omega
    obtain rfl : day = monthLength year 12 := by omega
    simp [monthLength, marchMonth, marchYear, daysBeforeMonth]
    omega

/-- One date stands before another in the calendar. -/
def Before (v w : Date) : Prop :=
  v.year < w.year ∨ v.year = w.year ∧ (v.month < w.month ∨ v.month = w.month ∧ v.day < w.day)

theorem toDay_lt (hv : v.isValid = true) (hw : w.isValid = true) (h : v.Before w) :
    v.toDay.number < w.toDay.number := by
  obtain ⟨hm, -, -⟩ := isValid_iff.mp hv
  obtain ⟨hm', -, -⟩ := isValid_iff.mp hw
  have hlt := (counted_toDay hv).lt (counted_toDay hw) (by
    unfold Before at h
    unfold marchYear marchMonth
    split_ifs <;> omega)
  omega

/-- **Days follow one another as their dates do.** -/
theorem toDay_lt_iff (hv : v.isValid = true) (hw : w.isValid = true) :
    v.toDay.number < w.toDay.number ↔ v.Before w := by
  refine ⟨fun hlt => ?_, toDay_lt hv hw⟩
  by_contra hbefore
  have hafter : w.Before v ∨ w = v := by
    obtain ⟨y, m, d⟩ := v
    obtain ⟨y', m', d'⟩ := w
    simp only [Before, Date.mk.injEq] at hbefore ⊢
    omega
  rcases hafter with hafter | rfl
  · exact (toDay_lt hw hv hafter).asymm hlt
  · exact lt_irrefl _ hlt

end Date

namespace Day

theorem date_injective : Function.Injective date := fun a b h => by
  rw [← a.toDay_date, h, b.toDay_date]

/-- **The day after has the next date.** -/
theorem date_succ (d : Day) : (d.plus 1).date = d.date.next := by
  have hnumber := Date.number_toDay_next d.isValid_date
  rw [d.toDay_date] at hnumber
  have hday : d.plus 1 = d.date.next.toDay := congrArg Day.mk hnumber.symm
  rw [hday, Date.date_toDay (Date.isValid_next d.isValid_date)]

theorem next_date_pred (d : Day) : (d.plus (-1)).date.next = d.date := by
  rw [← date_succ]
  exact congrArg date (congrArg Day.mk (show d.number + -1 + 1 = d.number by omega))

theorem date_firstOfMonth (d : Day) : d.firstOfMonth.date = { d.date with day := 1 } :=
  Date.date_toDay (Date.isValid_first _ (Date.isValid_iff.mp d.isValid_date).1)

theorem date_firstOfYear (d : Day) : d.firstOfYear.date = ⟨d.date.year, 1, 1⟩ :=
  Date.date_toDay (Date.isValid_first _ (by decide))

theorem number_lt_iff (a b : Day) : a.number < b.number ↔ a.date.Before b.date := by
  rw [← Date.toDay_lt_iff a.isValid_date b.isValid_date, a.toDay_date, b.toDay_date]

theorem le_year_iff (d : Day) (year : Int) :
    year ≤ d.date.year ↔ (⟨year, 1, 1⟩ : Date).toDay.number ≤ d.number := by
  obtain ⟨hmonth, hday, -⟩ := Date.isValid_iff.mp d.isValid_date
  rw [← Int.not_lt, ← Int.not_lt, number_lt_iff, Date.date_toDay (Date.isValid_first _ (by decide))]
  simp only [Date.Before]
  omega

theorem year_mono {a b : Day} (h : a.number ≤ b.number) : a.date.year ≤ b.date.year :=
  (b.le_year_iff _).mpr (((a.le_year_iff _).mp le_rfl).trans h)

end Day

end DocSearch
