import Mathlib
import DocSearch.Proofs.Calendar.Text
import DocSearch.Proofs.Query.TagSearch
/-!
# The periods of a query

* `Day.IsMonday`; `Day.isLatestMonday`: where a week begins.
* `Period`: the five periods, with the day on which each begins (`Period.first`) and the instant with
  which it ends, if it does (`Period.last?`).
* `Period.BeginsOn`: where a period begins, told by the calendar alone; `Period.beginsOn_first`.
  **`Period.period?_eq_some_iff`**: the range that is read for a word is the one from there.
* `Period.fourDigits_of_mem_bounds`: the years of all bounds have four digits.
* **`Period.parse_when`**: a query for files of a period asks for the interval that the calendar tells,
  and the texts of its bounds stand in their order in time.
-/

namespace DocSearch

/-! ## Weeks -/

namespace Day

/-- Whole weeks lie between the day and the fifth of January 1970, which was a Monday. -/
def IsMonday (d : Day) : Prop := 7 ∣ d.number - (⟨1970, 1, 5⟩ : Date).toDay.number

/-- The latest Monday that is not after a day. -/
structure IsLatestMonday (d today : Day) : Prop where
  monday : d.IsMonday
  begun : d.number ≤ today.number
  latest : ∀ d' : Day, d'.IsMonday → d'.number ≤ today.number → d'.number ≤ d.number

theorem isMonday_iff {d : Day} : d.IsMonday ↔ 7 ∣ d.number - 4 := Iff.rfl

theorem number_monday (d : Day) : d.monday.number = d.number - (d.number + 3) % 7 := by
  rw [monday, plus, sinceMonday, Int.fmod_eq_emod_of_nonneg _ (by decide)]
  rfl

theorem next_date_eq_iff {d d' : Day} : d.date.next = d'.date ↔ d.number + 1 = d'.number := by
  rw [← date_succ, date_injective.eq_iff]
  exact ⟨congrArg Day.number, congrArg Day.mk⟩

theorem isLatestMonday (d : Day) : d.monday.IsLatestMonday d where
  monday := by
    rw [isMonday_iff, number_monday]
    omega
  begun := by
    rw [number_monday]
    omega
  latest := by
    intro d' h hle
    rw [isMonday_iff] at h
    rw [number_monday]
    omega

end Day

namespace Query

/-! ## Periods -/

/-- The periods of time that a query knows. -/
inductive Period where
  | today
  | yesterday
  | thisWeek
  | thisMonth
  | thisYear
deriving DecidableEq, Repr

namespace Period

/-- The word for a period, in lowercase. -/
def word : Period → String
  | today => "today"
  | yesterday => "yesterday"
  | thisWeek => "thisweek"
  | thisMonth => "thismonth"
  | thisYear => "thisyear"

/-- The day on which a period begins. -/
def first (now : Day) : Period → Day
  | today => now
  | yesterday => now.plus (-1)
  | thisWeek => now.monday
  | thisMonth => now.firstOfMonth
  | thisYear => now.firstOfYear

/-- The last instant of a period that is over. -/
def last? (now : Day) : Period → Option Instant
  | yesterday => some (now.start.before 1)
  | _ => none

/-- The first instant of a period, and the last one if there is one. -/
def bounds (now : Day) (p : Period) : List Instant := (p.first now).start :: (p.last? now).toList

/-- The bounds of a period as they are written. -/
def range (now : Day) (p : Period) : TimeRange :=
  ⟨some (p.first now).start.render, (p.last? now).map Instant.render⟩

/-- Where a period begins, told by the calendar. -/
def BeginsOn (p : Period) (now d : Day) : Prop :=
  match p with
  | today => d = now
  | yesterday => d.date.next = now.date
  | thisWeek => d.IsLatestMonday now
  | thisMonth => d.date = { now.date with day := 1 }
  | thisYear => d.date = ⟨now.date.year, 1, 1⟩

/-- The range of a period that begins on a day, as it is written. -/
def rangeFrom (p : Period) (d : Day) : TimeRange :=
  ⟨some (d.date.render ++ " 00:00:00.000"),
    if p = yesterday then some (d.date.render ++ " 23:59:59.999") else none⟩

/-- The word of a period, in any letter case. -/
def IsSpelt (p : Period) (word : String) : Prop := Text.lower word = p.word

variable (p : Period)

/-! ## Words -/

theorem ascii_word : ∀ c ∈ p.word.toList, 0x21 ≤ c.toNat ∧ c.toNat < 0x80 := by
  have h : (p.word.toList.all fun c => 0x21 ≤ c.toNat && c.toNat < 0x80) = true := by
    cases p <;> decide +kernel
  simpa using h

theorem isSpelt_of_toLower {word : String} (h : word.toList.map Char.toLower = p.word.toList) :
    p.IsSpelt word := by
  have hascii : ∀ c ∈ word.toList, c.toNat < 0x80 := by
    intro c hc
    have hmem := List.mem_map_of_mem (f := Char.toLower) hc
    rw [h] at hmem
    exact Text.toNat_lt_of_toLower (p.ascii_word _ hmem).2
  rw [IsSpelt, Text.lower, Text.lowerChars, Text.lowerFrom_of_ascii hascii, h, String.ofList_toList]

variable {p}

theorem IsSpelt.isToken {word : String} (h : p.IsSpelt word) :
    word ≠ "" ∧ ∀ c ∈ word.toList, Text.isBlank c = false := by
  constructor
  · have hempty : Text.lower "" ≠ p.word := by cases p <;> decide
    rintro rfl
    exact hempty h
  · have hlower : Text.lowerFrom [] word.toList = p.word.toList := by
      rw [← h, Text.lower, String.toList_ofList]
      rfl
    apply Text.isBlank_of_lowerFrom
    rw [hlower]
    intro c hc
    obtain ⟨hlow, hhigh⟩ := p.ascii_word c hc
    exact Text.isBlank_eq_false hlow (by omega)

theorem period?_of_isSpelt {word : String} (h : p.IsSpelt word) (now : Day) :
    period? now word = some (p.range now) := by
  rw [period?, h]
  cases p <;> rfl

theorem parse_updated {word : String} (h : p.IsSpelt word) (now : Instant) :
    parse now ("when:" ++ word) = { updated := some (p.range now.day), visibleOnly := true } := by
  have hs : "when:" ∈ Key.updated.spellings := by decide
  obtain ⟨hne, hblank⟩ := h.isToken
  obtain ⟨hvalues, hfree⟩ := valuesOf_spelling hs hne
  rw [parse_eq_ofTokens, words_spelling hs hne hblank]
  simp [ofTokens, hvalues, hfree, sizeOf?, period?_of_isSpelt h]

/-! ## Intervals -/

variable (p)

theorem beginsOn_first (now : Day) : p.BeginsOn now (p.first now) := by
  cases p with
  | today => rfl
  | yesterday => exact now.next_date_pred
  | thisWeek => exact now.isLatestMonday
  | thisMonth => exact now.date_firstOfMonth
  | thisYear => exact now.date_firstOfYear

theorem BeginsOn.eq_first {now d : Day} (h : p.BeginsOn now d) : d = p.first now := by
  have hfirst := p.beginsOn_first now
  cases p with
  | today => exact h
  | yesterday =>
    have hnumber := Day.next_date_eq_iff.mp h
    exact congrArg Day.mk (show d.number = now.number + -1 by omega)
  | thisWeek =>
    exact congrArg Day.mk (Int.le_antisymm (hfirst.latest d h.monday h.begun)
      (h.latest _ hfirst.monday hfirst.begun))
  | thisMonth => exact Day.date_injective (h.trans hfirst.symm)
  | thisYear => exact Day.date_injective (h.trans hfirst.symm)

theorem range_eq_rangeFrom (now : Day) : p.range now = p.rangeFrom (p.first now) := by
  have hstart := Day.render_start (p.first now)
  cases p with
  | yesterday =>
    have hlast := Day.render_before_start now
    exact congrArg₂ TimeRange.mk (congrArg some hstart) (congrArg some hlast)
  | today | thisWeek | thisMonth | thisYear =>
    exact congrArg (TimeRange.mk · none) (congrArg some hstart)

/-- **The range that is read is that of the period which the word spells**, from the day on which it
begins by the calendar. -/
theorem period?_eq_some_iff {word : String} {now : Day} {range : TimeRange} :
    period? now word = some range ↔
      ∃ (p : Period) (d : Day), p.IsSpelt word ∧ p.BeginsOn now d ∧ p.rangeFrom d = range := by
  constructor
  · intro h
    have hspelt : ∃ p : Period, p.IsSpelt word ∧ p.range now = range := by
      unfold period? at h
      split at h
      · next he => exact ⟨today, he, Option.some.inj h⟩
      · next he => exact ⟨yesterday, he, Option.some.inj h⟩
      · next he => exact ⟨thisWeek, he, Option.some.inj h⟩
      · next he => exact ⟨thisMonth, he, Option.some.inj h⟩
      · next he => exact ⟨thisYear, he, Option.some.inj h⟩
      · cases h
    obtain ⟨p, hp, hrange⟩ := hspelt
    exact ⟨p, p.first now, hp, p.beginsOn_first now, by rw [← range_eq_rangeFrom, hrange]⟩
  · rintro ⟨p, d, hp, hd, rfl⟩
    rw [period?_of_isSpelt hp, hd.eq_first, range_eq_rangeFrom]

/-- No period begins after the day from which it is seen. -/
theorem first_le (now : Day) : (p.first now).number ≤ now.number := by
  obtain ⟨hm, hd, -⟩ := Date.isValid_iff.mp now.isValid_date
  have hnow : ∀ d : Day, ¬ now.date.Before d.date → d.number ≤ now.number := by
    intro d h
    rwa [← Day.number_lt_iff, Int.not_lt] at h
  cases p with
  | today => exact le_rfl
  | yesterday => exact (show now.number + -1 ≤ now.number by omega)
  | thisWeek => exact now.isLatestMonday.begun
  | thisMonth =>
    apply hnow
    rw [first, Day.date_firstOfMonth]
    simp only [Date.Before]
    omega
  | thisYear =>
    apply hnow
    rw [first, Day.date_firstOfYear]
    simp only [Date.Before]
    omega

/-- Years in which, and in the one before, dates are written with four digits. -/
def IsUsual (now : Instant) : Prop := 2 ≤ now.day.date.year ∧ now.day.date.year ≤ 9999

theorem one_le_year_first {now : Day} (h : 2 ≤ now.date.year) : 1 ≤ (p.first now).date.year := by
  have hyear : (⟨2, 1, 1⟩ : Date).toDay.number = (⟨1, 1, 1⟩ : Date).toDay.number + 365 := by decide
  have hnow := (now.le_year_iff 2).mp h
  have hfar : ∀ d : Day, now.number - 6 ≤ d.number → 1 ≤ d.date.year := by
    intro d hd
    rw [Day.le_year_iff]
    omega
  cases p with
  | today => exact hfar now (by omega)
  | yesterday => exact hfar _ (show now.number - 6 ≤ now.number + -1 by omega)
  | thisWeek =>
    apply hfar
    rw [first, Day.number_monday]
    omega
  | thisMonth =>
    rw [first, Day.date_firstOfMonth]
    exact (show (1 : Int) ≤ 2 by decide).trans h
  | thisYear =>
    rw [first, Day.date_firstOfYear]
    exact (show (1 : Int) ≤ 2 by decide).trans h

variable {p}

theorem fourDigits_of_mem_bounds {now : Instant} (h : IsUsual now) {t : Instant}
    (ht : t ∈ p.bounds now.day) : t.day.date.FourDigits := by
  have hfirst : ∀ p : Period, (p.first now.day).date.FourDigits := by
    intro p
    have hle := Day.year_mono (p.first_le now.day)
    have hge := p.one_le_year_first h.1
    have hlast := h.2
    constructor <;> omega
  rcases List.mem_cons.mp ht with rfl | ht
  · rw [Day.day_start]
    exact hfirst p
  · cases p with
    | yesterday =>
      rw [List.mem_singleton.mp ht, Day.day_before_start]
      exact hfirst .yesterday
    | today | thisWeek | thisMonth | thisYear => cases ht

/-! ## Queries for a period -/

/-- An instant lies within a period. -/
def Holds (now : Day) (p : Period) (t : Instant) : Prop :=
  (p.first now).start.millis ≤ t.millis ∧ ∀ last ∈ p.last? now, t.millis ≤ last.millis

/-- What the calendar tells of a period that is seen from an instant. -/
structure IsInterval (now : Instant) (p : Period) : Prop where
  begins : p.BeginsOn now.day (p.first now.day)
  begun : (p.first now.day).start.millis ≤ now.millis
  text : (p.range now.day).gte = some ((p.first now.day).date.render ++ " 00:00:00.000")
  goesOn : p ≠ yesterday → p.last? now.day = none ∧ (p.range now.day).lte = none

/-- Yesterday ends where today begins, and holds all instants of one date. -/
structure IsDayBefore (now : Instant) : Prop where
  touches : ∃ last, yesterday.last? now.day = some last ∧
    last.millis + 1 = (today.first now.day).start.millis
  text : (yesterday.range now.day).lte =
    some ((yesterday.first now.day).date.render ++ " 23:59:59.999")
  whole : ∀ t, yesterday.Holds now.day t ↔ t.day.date.next = now.day.date

theorem isInterval (now : Instant) (p : Period) : p.IsInterval now where
  begins := p.beginsOn_first now.day
  begun := by
    have hle := p.first_le now.day
    have hnow := now.millis_eq.1
    simp only [Day.start, Day.millis]
    omega
  text := congrArg some (Day.render_start _)
  goesOn := by
    intro h
    cases p with
    | yesterday => exact absurd rfl h
    | today | thisWeek | thisMonth | thisYear => exact ⟨rfl, rfl⟩

theorem isDayBefore (now : Instant) : IsDayBefore now where
  touches := by
    refine ⟨_, rfl, ?_⟩
    simp only [Instant.before, first]
    omega
  text := congrArg some (Day.render_before_start _)
  whole := by
    intro t
    obtain ⟨hmillis, hrest⟩ := t.millis_eq
    rw [Day.next_date_eq_iff]
    simp only [Holds, first, last?, Option.mem_some_iff, forall_eq', Day.millis_before_start]
    simp only [Day.start, Day.plus, Day.millis]
    omega

/-- **A query for a period asks for the interval that the calendar tells.** -/
theorem parse_when (now : Instant) (h : IsUsual now) :
    (∀ (p : Period) (word : String), (p.IsSpelt word → parse now ("when:" ++ word) =
        { updated := some (p.range now.day), visibleOnly := true }) ∧
      (word.toList.map Char.toLower = p.word.toList → p.IsSpelt word)) ∧
    (∀ p, IsInterval now p) ∧ IsDayBefore now ∧
    ∀ now', IsUsual now' → ∀ p p' : Period, ∀ s ∈ bounds now.day p, ∀ t ∈ bounds now'.day p',
      cmp s.render t.render = cmp s.millis t.millis := by
  refine ⟨fun p word => ⟨fun hword => parse_updated hword now, p.isSpelt_of_toLower⟩,
    isInterval now, isDayBefore now, fun now' h' p p' s hs t ht => ?_⟩
  exact Instant.cmp_render (fourDigits_of_mem_bounds h hs) (fourDigits_of_mem_bounds h' ht)

/-- Yesterday, seen from the first instant behind a leap day. -/
theorem parse_when_leap_day :
    IsUsual ⟨1709251200000⟩ ∧ yesterday.IsSpelt "YesterDay" ∧
      parse ⟨1709251200000⟩ "when:YesterDay" =
        { updated := some ⟨some "2024-02-29 00:00:00.000", some "2024-02-29 23:59:59.999"⟩,
          visibleOnly := true } := by
  have h : IsUsual ⟨1709251200000⟩ := by unfold IsUsual; decide
  obtain ⟨hparse, -⟩ := parse_when ⟨1709251200000⟩ h
  have hword : yesterday.IsSpelt "YesterDay" := (hparse yesterday "YesterDay").2 (by decide)
  refine ⟨h, hword, ?_⟩
  exact ((hparse yesterday "YesterDay").1 hword).trans (by decide +kernel)

end Period

end Query

end DocSearch
