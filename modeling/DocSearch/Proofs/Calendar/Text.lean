import Mathlib
import DocSearch.Proofs.Calendar.Date
import DocSearch.Proofs.Text.Numeral
/-!
# Texts of days and instants stand in their order

* `Aligned o a b`: two texts of one length, of which the first is less than, equal to or greater than
  the second as `o` tells. `Aligned.append`: the order of the parts in front decides before that of the
  parts behind.
* `Date.aligned_padded`, `Date.aligned_render`, `Instant.aligned_clock`: numbers of a fixed width,
  dates, times of a day.
* **`Instant.cmp_render`**: in years of four digits texts compare as the instants do that they tell.
* `Day.render_start`, `Day.render_before_start`: the texts of the first instant of a day and of the one
  before it.
-/

namespace DocSearch

/-! ## Texts of one length -/

/-- Texts of one length, the first of which compares with the second as `o` tells. -/
structure Aligned (o : Ordering) (a b : String) : Prop where
  length : a.length = b.length
  compares : o.Compares a b

theorem append_lt_append_of_lt {a b : List Char} (h : a.length = b.length) (hlt : a < b)
    (c d : List Char) : a ++ c < b ++ d := by
  induction a generalizing b with
  | nil =>
    obtain rfl := List.length_eq_zero_iff.mp h.symm
    exact absurd hlt (lt_irrefl _)
  | cons x a ih =>
    obtain ⟨y, b, rfl⟩ := List.exists_cons_of_length_eq_add_one h.symm
    rw [List.cons_append, List.cons_append, List.cons_lt_cons_iff]
    rcases List.cons_lt_cons_iff.mp hlt with hx | ⟨rfl, hrest⟩
    · exact .inl hx
    · exact .inr ⟨rfl, ih (by simpa using h) hrest⟩

theorem Aligned.refl (a : String) : Aligned .eq a a := ⟨rfl, rfl⟩

/-- **The order of the parts in front decides before that of the parts behind.** -/
theorem Aligned.append {o o' : Ordering} {a b c d : String} (h : Aligned o a b)
    (h' : Aligned o' c d) : Aligned (o.then o') (a ++ c) (b ++ d) := by
  refine ⟨by rw [String.length_append, String.length_append, h.length, h'.length], ?_⟩
  have hlt : ∀ {a b : String}, a.length = b.length → a < b → ∀ c d : String, a ++ c < b ++ d := by
    intro a b hlength hlt c d
    rw [String.lt_iff_toList_lt] at hlt ⊢
    rw [String.toList_append, String.toList_append]
    rw [← String.length_toList, ← String.length_toList] at hlength
    exact append_lt_append_of_lt hlength hlt _ _
  cases o with
  | lt => exact hlt h.length h.compares c d
  | gt => exact hlt h.length.symm h.compares d c
  | eq =>
    obtain rfl : a = b := h.compares
    have hfront : ∀ {c d : String}, c < d → a ++ c < a ++ d := by
      intro c d hlt
      rw [String.lt_iff_toList_lt] at hlt ⊢
      rw [String.toList_append, String.toList_append]
      exact List.append_left_lt hlt
    cases o' with
    | lt => exact hfront h'.compares
    | gt => exact hfront h'.compares
    | eq => exact congrArg (a ++ ·) h'.compares

/-! ## Numbers of a fixed width -/

theorem cmp_div_mod (m n k : Nat) :
    (cmp (m / k) (n / k)).then (cmp (m % k) (n % k)) = cmp m n := by
  rcases lt_trichotomy (m / k) (n / k) with h | h | h
  · rw [(cmp_eq_lt_iff _ _).mpr h, (cmp_eq_lt_iff _ _).mpr (Nat.lt_of_div_lt_div h)]
    rfl
  · have hm := Nat.div_add_mod m k
    have hn := Nat.div_add_mod n k
    rw [h] at hm
    rw [h, cmp_self_eq_eq, Ordering.eq_then, ← cmp_add_left (k * (n / k)), hm, hn]
  · rw [(cmp_eq_gt_iff _ _).mpr h, (cmp_eq_gt_iff _ _).mpr (Nat.lt_of_div_lt_div h)]
    rfl

namespace Date

theorem toList_padded (w n : Nat) :
    (padded w n).toList = List.replicate (w - (Nat.toDigits 10 n).length) '0' ++ Nat.toDigits 10 n := by
  rw [padded, String.toList_append, String.toList_ofList, Text.toList_toString,
    ← Text.toList_toString, String.length_toList]

theorem padded_of_digit {n : Nat} (h : n < 10) : padded 1 n = String.singleton n.digitChar := by
  rw [← String.toList_inj, toList_padded, Nat.toDigits_of_lt_base h]
  simp

theorem padded_succ (w n : Nat) :
    padded (w + 2) n = padded (w + 1) (n / 10) ++ String.singleton (n % 10).digitChar := by
  rw [← String.toList_inj, String.toList_append, toList_padded, toList_padded]
  rcases Nat.lt_or_ge n 10 with h | h
  · rw [Nat.toDigits_of_lt_base h, Nat.div_eq_of_lt h, Nat.mod_eq_of_lt h, Nat.toDigits_zero]
    simp [List.replicate_succ']
  · rw [Nat.toDigits_of_base_le (by decide) h]
    simp

theorem aligned_digitChar {m n : Nat} (hm : m < 10) (hn : n < 10) :
    Aligned (cmp m n) (String.singleton m.digitChar) (String.singleton n.digitChar) := by
  have hdigits : ∀ m < 10, ∀ n < 10, m < n → m.digitChar < n.digitChar := by decide
  have hmono : StrictMonoOn (fun n : Nat => String.singleton n.digitChar) (Set.Iio 10) := by
    intro m hm n hn hlt
    rw [String.lt_iff_toList_lt, String.toList_singleton, String.toList_singleton,
      List.cons_lt_cons_iff]
    exact .inl (hdigits m hm n hn hlt)
  refine ⟨?_, (hmono.compares hm hn).mpr (cmp_compares m n)⟩
  rw [String.length_singleton, String.length_singleton]

/-- Texts of a fixed width compare as the numbers do that they tell. -/
theorem aligned_padded (w : Nat) {m n : Nat} (hm : m < 10 ^ (w + 1)) (hn : n < 10 ^ (w + 1)) :
    Aligned (cmp m n) (padded (w + 1) m) (padded (w + 1) n) := by
  induction w generalizing m n with
  | zero =>
    rw [zero_add, pow_one] at hm hn
    rw [zero_add, padded_of_digit hm, padded_of_digit hn]
    exact aligned_digitChar hm hn
  | succ w ih =>
    have hm' : m / 10 < 10 ^ (w + 1) := Nat.div_lt_of_lt_mul (by rwa [← Nat.pow_succ'])
    have hn' : n / 10 < 10 ^ (w + 1) := Nat.div_lt_of_lt_mul (by rwa [← Nat.pow_succ'])
    rw [padded_succ, padded_succ, ← cmp_div_mod m n 10]
    exact (ih hm' hn').append
      (aligned_digitChar (Nat.mod_lt m (by decide)) (Nat.mod_lt n (by decide)))

/-! ## Dates -/

/-- The year has four digits. -/
def FourDigits (v : Date) : Prop := 0 ≤ v.year ∧ v.year ≤ 9999

/-- Year, month and day compare two dates, in this order. -/
def order (v w : Date) : Ordering :=
  ((cmp v.year w.year).then (cmp v.month w.month)).then (cmp v.day w.day)

variable {v w : Date}

theorem monthLength_le (year : Int) (month : Nat) : monthLength year month ≤ 31 := by
  unfold monthLength
  split_ifs <;> decide

theorem aligned_year (hv : v.FourDigits) (hw : w.FourDigits) :
    Aligned (cmp v.year w.year) (renderYear v.year) (renderYear w.year) := by
  obtain ⟨m, hm⟩ := Int.eq_ofNat_of_zero_le hv.1
  obtain ⟨n, hn⟩ := Int.eq_ofNat_of_zero_le hw.1
  have hm' := hv.2
  have hn' := hw.2
  rw [hm] at hm' ⊢
  rw [hn] at hn' ⊢
  rw [renderYear, if_neg (by omega), if_neg (by omega), Int.natAbs_natCast]
  rw [renderYear, if_neg (by omega), if_neg (by omega), Int.natAbs_natCast]
  rw [Nat.strictMono_cast.cmp_map_eq m n]
  exact aligned_padded 3 (by omega) (by omega)

theorem aligned_render (hv : v.isValid = true) (hw : w.isValid = true) (hv' : v.FourDigits)
    (hw' : w.FourDigits) : Aligned (v.order w) v.render w.render := by
  obtain ⟨hm, -, hl⟩ := isValid_iff.mp hv
  obtain ⟨hm', -, hl'⟩ := isValid_iff.mp hw
  have hlong := monthLength_le v.year v.month
  have hlong' := monthLength_le w.year w.month
  have hmonth := aligned_padded 1 (m := v.month) (n := w.month) (by omega) (by omega)
  have hday := aligned_padded 1 (m := v.day) (n := w.day) (by omega) (by omega)
  have h := ((((aligned_year hv' hw').append (.refl "-")).append hmonth).append (.refl "-")).append hday
  simpa [order, render] using h

end Date

theorem Day.cmp_number (a b : Day) : cmp a.number b.number = a.date.order b.date := by
  have hgt : a.date.order b.date = .gt ↔ b.date.Before a.date := by
    simp only [Date.order, Ordering.then_eq_gt, Ordering.then_eq_eq, cmp_eq_gt_iff, cmp_eq_eq_iff, Date.Before]
    omega
  have hlt : a.date.order b.date = .lt ↔ a.date.Before b.date := by
    simp only [Date.order, Ordering.then_eq_lt, Ordering.then_eq_eq, cmp_eq_lt_iff, cmp_eq_eq_iff, Date.Before]
    omega
  rw [← Day.number_lt_iff] at hgt hlt
  rcases lt_trichotomy a.number b.number with h | h | h
  · rw [(cmp_eq_lt_iff _ _).mpr h, hlt.mpr h]
  · obtain rfl : a = b := congrArg Day.mk h
    simp [Date.order]
  · rw [(cmp_eq_gt_iff _ _).mpr h, hgt.mpr h]

theorem Day.aligned_render {a b : Day} (ha : a.date.FourDigits) (hb : b.date.FourDigits) :
    Aligned (cmp a.number b.number) a.render b.render := by
  rw [Day.cmp_number]
  exact Date.aligned_render a.isValid_date b.isValid_date ha hb

/-! ## Instants -/

namespace Instant

/-- The milliseconds of the day in front of an instant. -/
def rest (t : Instant) : Nat := (t.millis.fmod Day.millis).toNat

/-- A time of the day as it is written. -/
def clock (rest : Nat) : String :=
  Date.padded 2 (rest / 3600000) ++ ":" ++ Date.padded 2 (rest / 60000 % 60) ++ ":" ++
    Date.padded 2 (rest / 1000 % 60) ++ "." ++ Date.padded 3 (rest % 1000)

theorem render_eq (t : Instant) : t.render = t.day.render ++ " " ++ clock t.rest := by
  simp [render, clock, rest, String.append_assoc]

theorem aligned_clock {m n : Nat} (hm : m < 86400000) (hn : n < 86400000) :
    Aligned (cmp m n) (clock m) (clock n) := by
  have hhour := Date.aligned_padded 1 (m := m / 3600000) (n := n / 3600000) (by omega) (by omega)
  have hminute := Date.aligned_padded 1 (m := m / 60000 % 60) (n := n / 60000 % 60) (by omega) (by omega)
  have hsecond := Date.aligned_padded 1 (m := m / 1000 % 60) (n := n / 1000 % 60) (by omega) (by omega)
  have hmilli := Date.aligned_padded 2 (m := m % 1000) (n := n % 1000) (by omega) (by omega)
  have h := (((((hhour.append (.refl ":")).append hminute).append (.refl ":")).append hsecond).append
    (.refl ".")).append hmilli
  have hminutes := cmp_div_mod (m / 60000) (n / 60000) 60
  have hseconds := cmp_div_mod (m / 1000) (n / 1000) 60
  have hmillis := cmp_div_mod m n 1000
  rw [Nat.div_div_eq_div_mul, Nat.div_div_eq_div_mul] at hminutes hseconds
  simp only [Ordering.then_eq] at h
  rw [hminutes, hseconds, hmillis] at h
  exact h

theorem millis_eq (t : Instant) : t.millis = t.day.number * 86400000 + t.rest ∧ t.rest < 86400000 := by
  simp only [day, rest, Day.millis, Int.fdiv_eq_ediv_of_nonneg _ (show (0 : Int) ≤ 86400000 by decide),
    Int.fmod_eq_emod_of_nonneg _ (show (0 : Int) ≤ 86400000 by decide)]
  omega

theorem render_of_millis {t : Instant} {d : Day} {r : Nat} (h : t.millis = d.number * 86400000 + r)
    (hr : r < 86400000) : t.day = d ∧ t.render = d.render ++ " " ++ clock r := by
  obtain ⟨ht, ht'⟩ := t.millis_eq
  have hday : t.day = d := congrArg Day.mk (show t.day.number = d.number by omega)
  have hrest : t.rest = r := by omega
  exact ⟨hday, by rw [render_eq, hday, hrest]⟩

theorem cmp_millis (s t : Instant) :
    cmp s.millis t.millis = (cmp s.day.number t.day.number).then (cmp s.rest t.rest) := by
  obtain ⟨hs, hs'⟩ := s.millis_eq
  obtain ⟨ht, ht'⟩ := t.millis_eq
  rcases lt_trichotomy s.day.number t.day.number with h | h | h
  · rw [(cmp_eq_lt_iff _ _).mpr h, (cmp_eq_lt_iff _ _).mpr (show s.millis < t.millis by omega)]
    rfl
  · rw [hs, ht, h, cmp_self_eq_eq, Ordering.eq_then, cmp_add_left, Nat.strictMono_cast.cmp_map_eq]
  · rw [(cmp_eq_gt_iff _ _).mpr h, (cmp_eq_gt_iff _ _).mpr (show t.millis < s.millis by omega)]
    rfl

theorem aligned_render {s t : Instant} (hs : s.day.date.FourDigits) (ht : t.day.date.FourDigits) :
    Aligned (cmp s.millis t.millis) s.render t.render := by
  have hclock := aligned_clock s.millis_eq.2 t.millis_eq.2
  have h := ((Day.aligned_render hs ht).append (.refl " ")).append hclock
  rw [render_eq, render_eq, cmp_millis]
  simpa using h

/-- **In years of four digits texts compare as the instants do that they tell.** -/
theorem cmp_render {s t : Instant} (hs : s.day.date.FourDigits) (ht : t.day.date.FourDigits) :
    cmp s.render t.render = cmp s.millis t.millis :=
  (cmp_compares _ _).inj (aligned_render hs ht).compares

end Instant

namespace Day

theorem day_start (d : Day) : d.start.day = d :=
  (Instant.render_of_millis (r := 0) (by simp [start, millis]) (by decide)).1

theorem render_start (d : Day) : d.start.render = d.render ++ " 00:00:00.000" := by
  have h := Instant.render_of_millis (t := d.start) (d := d) (r := 0) (by simp [start, millis]) (by decide)
  rw [h.2, String.append_assoc]
  exact congrArg (d.render ++ ·) (by decide)

theorem millis_before_start (d : Day) :
    (d.start.before 1).millis = (d.plus (-1)).number * 86400000 + 86399999 := by
  simp only [Instant.before, start, plus, millis]
  omega

theorem day_before_start (d : Day) : (d.start.before 1).day = d.plus (-1) :=
  (Instant.render_of_millis (r := 86399999) d.millis_before_start (by decide)).1

theorem render_before_start (d : Day) :
    (d.start.before 1).render = (d.plus (-1)).render ++ " 23:59:59.999" := by
  rw [(Instant.render_of_millis (r := 86399999) d.millis_before_start (by decide)).2, String.append_assoc]
  exact congrArg ((d.plus (-1)).render ++ ·) (by decide)

end Day

end DocSearch
