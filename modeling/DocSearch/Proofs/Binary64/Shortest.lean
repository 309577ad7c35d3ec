import Mathlib
import DocSearch.Binary64.Decimal
/-!
# The search for the shortest digits ends

The grid gets finer by a factor of ten at every step, and the numbers that round to `x` fill an
interval. Forty steps reach a grid that is finer than half of that interval.

* `one_le_coefficient`, `scale_le`: the magnitude of every number but zero.
* `onGrid?_of_fine`: a fine grid has a point in the interval.
* `fine_of_start`: the search goes down to such a grid.
* **`shortest_pos`**: the digits that are found are those of a positive number.
-/

namespace DocSearch.Binary64

variable {x : Binary64}

/-! ## Magnitudes -/

theorem word_lt (x : Binary64) : x.word < signWord := Nat.mod_lt _ (by decide)

theorem one_le_coefficient (h : x.word ≠ 0) : 1 ≤ x.coefficient := by
  unfold coefficient binade
  split_ifs <;> omega

theorem coefficient_lt (x : Binary64) : x.coefficient < Nat.pow 2 53 := by
  have hp : Nat.pow 2 53 = 0x20000000000000 := by decide
  have := Nat.mod_lt x.word (show 0 < 0x10000000000000 by decide)
  unfold coefficient binade
  split_ifs <;> omega

theorem scale_le (x : Binary64) : x.scale ≤ 2046 := by
  have := x.word_lt
  unfold signWord at this
  unfold scale binade
  omega

theorem log2_units (h : x.word ≠ 0) :
    x.scale ≤ x.units.log2 ∧ x.units.log2 ≤ x.scale + 52 := by
  have hc := one_le_coefficient h
  have hlt := x.coefficient_lt
  have hpow : 0 < 2 ^ x.scale := Nat.two_pow_pos _
  have hunits : x.units = x.coefficient * 2 ^ x.scale := rfl
  have hne : x.units ≠ 0 := by
    rw [hunits]
    exact Nat.mul_ne_zero (by omega) hpow.ne'
  constructor
  · rw [Nat.le_log2 hne, hunits]
    exact Nat.le_mul_of_pos_left _ (by omega)
  · apply Nat.le_of_lt_succ
    rw [Nat.log2_lt hne, hunits, show (x.scale + 52).succ = 53 + x.scale by omega, Nat.pow_add]
    exact Nat.mul_lt_mul_of_pos_right hlt hpow

/-! ## Fine grids -/

/-- The grid of `10 ^ e` as a quotient of units. -/
def gridStep (e : Int) : Nat × Nat :=
  if 0 ≤ e then (4 * unitsPerOne * Nat.pow 10 e.toNat, 1)
  else (4 * unitsPerOne, Nat.pow 10 (-e).toNat)

/-- The point of a fine grid below the number rounds to it. -/
theorem holds_of_fine {num den : Nat} (h : x.word ≠ 0) (hden : 0 < den) (hnum : 0 < num)
    (hfine : num ≤ 2 ^ x.scale * den) :
    0 < 4 * x.units * den / num ∧
      x.interval.holds (4 * x.units * den / num * num) den = true := by
  have hc := one_le_coefficient h
  set below := if x.coefficient = binade ∧ 0 < x.scale then 1 else 2 with hbelow
  have hb : 1 ≤ below ∧ below ≤ 2 := by rw [hbelow]; split_ifs <;> omega
  set unit := 2 ^ x.scale * den with hunit
  have hpos : 0 < unit := Nat.mul_pos (Nat.two_pow_pos _) hden
  have hexact : 4 * x.units * den = 4 * x.coefficient * unit := by
    change 4 * (x.coefficient * 2 ^ x.scale) * den = _
    ring
  have hlow : x.interval.low * den = (4 * x.coefficient - below) * unit := by
    change (4 * x.coefficient - below) * 2 ^ x.scale * den = _
    ring
  have hhigh : x.interval.high * den = (4 * x.coefficient + 2) * unit := by
    change (4 * x.coefficient + 2) * 2 ^ x.scale * den = _
    ring
  set d := 4 * x.units * den / num with hd
  have hfloor : d * num ≤ 4 * x.units * den := Nat.div_mul_le_self _ _
  have hceil : 4 * x.units * den < d * num + num := by
    have := Nat.lt_div_mul_add (a := 4 * x.units * den) hnum
    rwa [← hd] at this
  have hsplit : (4 * x.coefficient - below) * unit + below * unit = 4 * x.coefficient * unit := by
    rw [← Nat.add_mul, Nat.sub_add_cancel (by omega)]
  have hunits : unit ≤ below * unit := Nat.le_mul_of_pos_left _ hb.1
  have hfour : 4 * unit ≤ 4 * x.coefficient * unit := Nat.mul_le_mul_right _ (by omega)
  have hadd : (4 * x.coefficient + 2) * unit = 4 * x.coefficient * unit + 2 * unit := by ring
  rw [hexact] at hfloor hceil
  have hpoint : 0 < d := by
    by_contra hz
    rw [Nat.eq_zero_of_not_pos hz, Nat.zero_mul] at hceil
    omega
  refine ⟨hpoint, ?_⟩
  unfold Interval.holds
  rw [hlow, hhigh, hadd]
  split_ifs
  · simp only [Bool.and_eq_true, decide_eq_true_eq]
    omega
  · simp only [Bool.and_eq_true, decide_eq_true_eq]
    omega

/-- Of two neighbours the one that fits, of two fitting ones the nearer one. -/
def pick (lower upper nearer : Bool) (d : Nat) : Option Nat :=
  if lower && upper then some (if nearer then d else d + 1)
  else if lower then some d
  else if upper then some (d + 1)
  else none

theorem isSome_pick (upper nearer : Bool) (d : Nat) : (pick true upper nearer d).isSome := by
  cases upper <;> rfl

theorem pick_eq_some {lower upper nearer : Bool} {d n : Nat}
    (h : pick lower upper nearer d = some n) : n = d ∧ lower = true ∨ n = d + 1 := by
  unfold pick at h
  split_ifs at h with hboth hnear hlower
  · exact .inl ⟨(Option.some.inj h).symm, (Bool.and_eq_true _ _ ▸ hboth).1⟩
  · exact .inr (Option.some.inj h).symm
  · exact .inl ⟨(Option.some.inj h).symm, hlower⟩
  · exact .inr (Option.some.inj h).symm

theorem onGrid?_eq (x : Binary64) (e : Int) :
    ∃ upper nearer, x.onGrid? e =
      pick (0 < 4 * x.units * (gridStep e).2 / (gridStep e).1 &&
        x.interval.holds (4 * x.units * (gridStep e).2 / (gridStep e).1 * (gridStep e).1)
          (gridStep e).2) upper nearer (4 * x.units * (gridStep e).2 / (gridStep e).1) := by
  set d := 4 * x.units * (gridStep e).2 / (gridStep e).1
  refine ⟨0 < d + 1 && x.interval.holds ((d + 1) * (gridStep e).1) (gridStep e).2,
    4 * x.units * (gridStep e).2 - d * (gridStep e).1 ≤
      (d + 1) * (gridStep e).1 - 4 * x.units * (gridStep e).2, ?_⟩
  simp only [pick, decide_eq_true_eq]
  rfl

theorem gridStep_pos (e : Int) : 0 < (gridStep e).1 ∧ 0 < (gridStep e).2 := by
  have hpow : ∀ k, 0 < 4 * Nat.pow 2 k := fun k => Nat.mul_pos (by decide) (Nat.two_pow_pos k)
  have htwo : 0 < 4 * unitsPerOne := by
    unfold unitsPerOne
    apply hpow
  have hten : ∀ k, 0 < Nat.pow 10 k := fun k => Nat.pow_pos (by decide)
  unfold gridStep
  split_ifs
  · exact ⟨Nat.mul_pos htwo (hten _), Nat.one_pos⟩
  · exact ⟨htwo, hten _⟩

theorem onGrid?_of_fine {e : Int} (h : x.word ≠ 0)
    (hfine : (gridStep e).1 ≤ 2 ^ x.scale * (gridStep e).2) : (x.onGrid? e).isSome := by
  obtain ⟨hpos, hholds⟩ := holds_of_fine h (gridStep_pos e).2 (gridStep_pos e).1 hfine
  obtain ⟨upper, nearer, heq⟩ := x.onGrid?_eq e
  rw [heq, hholds, decide_eq_true hpos]
  exact isSome_pick upper nearer _

theorem onGrid?_pos {e : Int} {d : Nat} (h : x.onGrid? e = some d) : 0 < d := by
  obtain ⟨upper, nearer, heq⟩ := x.onGrid?_eq e
  rw [heq] at h
  rcases pick_eq_some h with ⟨rfl, hlower⟩ | rfl
  · exact of_decide_eq_true (Bool.and_eq_true _ _ ▸ hlower).1
  · exact Nat.succ_pos _

/-! ## The search -/

theorem firstGrid_pos {fuel : Nat} {e e' : Int} (hle : e' ≤ e) (hlt : e < e' + fuel)
    (h : (x.onGrid? e').isSome) : 0 < (x.firstGrid fuel e).1 := by
  induction fuel generalizing e with
  | zero => omega
  | succ fuel ih =>
    rw [firstGrid]
    cases hg : x.onGrid? e with
    | some d => exact onGrid?_pos hg
    | none =>
      have hne : e' ≠ e := by
        rintro rfl
        rw [hg] at h
        cases h
      exact ih (by omega) (by omega)

theorem ten_pow_le (q : Nat) : 10 ^ (3 * q) ≤ 2 ^ (10 * q) := by
  rw [Nat.pow_mul, Nat.pow_mul]
  exact Nat.pow_le_pow_left (by decide) q

theorem two_pow_le (q : Nat) : 2 ^ (13 * q) ≤ 10 ^ (4 * q) := by
  rw [Nat.pow_mul, Nat.pow_mul]
  exact Nat.pow_le_pow_left (by decide) q

/-- The last grid of the search is fine: of the forty decimal places that it covers a number takes up
no more than its 53 binary ones. -/
theorem fine_of_start (log2 : Int) {s : Nat} {e : Int} (hs : s ≤ 2046) (hlow : s ≤ log2 + 1074)
    (hhigh : log2 + 1074 ≤ s + 52) (he : e = log2 * 30103 / 100000 + 2 - 39) :
    (gridStep e).1 ≤ 2 ^ s * (gridStep e).2 := by
  have hfour : ∀ k, 4 * Nat.pow 2 k = 2 ^ (k + 2) := by
    intro k
    rw [Nat.pow_add, Nat.mul_comm]
    rfl
  obtain ⟨q, hq, hunits⟩ : ∃ q, q = 1076 ∧ 4 * unitsPerOne = 2 ^ q := by
    unfold unitsPerOne
    generalize he : 1074 = k
    refine ⟨k + 2, by omega, ?_⟩
    apply hfour
  unfold gridStep
  rw [hunits]
  split_ifs with hsign
  · -- One unit is larger than `10 ^ e`, as `10 ^ 3` is less than `2 ^ 10`.
    obtain ⟨k, hk⟩ := Int.eq_ofNat_of_zero_le hsign
    have hten : 10 ^ k ≤ 2 ^ (10 * (k / 3 + 1)) :=
      (Nat.pow_le_pow_right (by decide) (by omega)).trans (ten_pow_le (k / 3 + 1))
    calc 2 ^ q * 10 ^ e.toNat = 2 ^ q * 10 ^ k := by rw [hk, Int.toNat_natCast]
      _ ≤ 2 ^ q * 2 ^ (10 * (k / 3 + 1)) := Nat.mul_le_mul_left _ hten
      _ = 2 ^ (q + 10 * (k / 3 + 1)) := (Nat.pow_add _ _ _).symm
      _ ≤ 2 ^ s := Nat.pow_le_pow_right (by decide) (by omega)
      _ = 2 ^ s * 1 := (Nat.mul_one _).symm
  · -- One is less than `10 ^ -e` units, as `10 ^ 4` is more than `2 ^ 13`.
    obtain ⟨k, hk⟩ := Int.eq_ofNat_of_zero_le (show 0 ≤ -e by omega)
    have hten : 2 ^ (13 * (k / 4)) ≤ 10 ^ k :=
      (two_pow_le (k / 4)).trans (Nat.pow_le_pow_right (by decide) (by omega))
    calc 2 ^ q ≤ 2 ^ (s + 13 * (k / 4)) := Nat.pow_le_pow_right (by decide) (by omega)
      _ = 2 ^ s * 2 ^ (13 * (k / 4)) := Nat.pow_add _ _ _
      _ ≤ 2 ^ s * 10 ^ k := Nat.mul_le_mul_left _ hten
      _ = 2 ^ s * 10 ^ (-e).toNat := by rw [hk, Int.toNat_natCast]

/-- **The digits of every number but zero are those of a positive one.** -/
theorem shortest_pos (h : x.word ≠ 0) : 0 < x.shortest.1 := by
  obtain ⟨hlow, hhigh⟩ := log2_units h
  have hfine := fine_of_start ((x.units.log2 : Int) - 1074) x.scale_le (by omega) (by omega) rfl
  exact firstGrid_pos (by omega) (by omega) (onGrid?_of_fine h hfine)

end DocSearch.Binary64
