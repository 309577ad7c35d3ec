import Mathlib
import DocSearch.Binary64.Basic
/-!
# The order of binary64 numbers

* `Binary64.AtMost`: the total order, told by the words alone. `orderKey_le_iff`: the keys are in that
  order.
* `Binary64.value`: the value of a finite number. **`atMost_iff_value`**: the total order is the order of
  the values, and of the two zeros the negative one comes first.
-/

namespace DocSearch.Binary64

variable {x y : Binary64}

/-! ## The words -/

/-- `x` stands nowhere above `y` in the total order. Words without the sign rise with their number, and
those with the sign fall below all of them. -/
def AtMost (x y : Binary64) : Prop :=
  (x.bits.toNat ≤ y.bits.toNat ∧ y.bits.toNat < 2 ^ 63) ∨
    (y.bits.toNat < 2 ^ 63 ∧ 2 ^ 63 ≤ x.bits.toNat) ∨
    (2 ^ 63 ≤ y.bits.toNat ∧ y.bits.toNat ≤ x.bits.toNat)

instance : DecidableRel AtMost := fun _ _ => inferInstanceAs (Decidable (_ ∨ _))

theorem orderKey_le_iff : x.orderKey ≤ y.orderKey ↔ x.AtMost y := by
  have hx := x.bits.toNat_lt
  have hy := y.bits.toNat_lt
  unfold AtMost orderKey isNegative word signWord
  simp only [decide_eq_true_eq]
  split_ifs <;> omega

/-! ## The values -/

/-- A finite number in units of the least positive one. -/
def signedUnits (x : Binary64) : Int := if x.isNegative then -(x.units : Int) else x.units

/-- The value of a finite number. -/
def value (x : Binary64) : ℚ := x.signedUnits / unitsPerOne

/-- The units of a word without sign. -/
def unitsOf (word : Nat) : Nat :=
  (if word < binade then word else word % binade + binade) * 2 ^ (word / binade - 1)

theorem units_eq (x : Binary64) : x.units = unitsOf x.word := rfl

theorem unitsOf_of_lt {word : Nat} (h : word < binade) : unitsOf word = word := by
  rw [unitsOf, if_pos h, Nat.div_eq_of_lt h, pow_zero, Nat.mul_one]

theorem unitsOf_binade {q r : Nat} (hr : r < binade) :
    unitsOf (binade * (q + 1) + r) = (r + binade) * 2 ^ q := by
  have hb : 0 < binade := by decide
  have hle : binade ≤ binade * (q + 1) + r := by
    rw [Nat.mul_succ]
    omega
  rw [unitsOf, if_neg (Nat.not_lt.mpr hle), Nat.mul_add_mod, Nat.mod_eq_of_lt hr, Nat.mul_add_div hb,
    Nat.div_eq_of_lt hr]
  rfl

/-- **The units rise with the word.** The last word of a binade is one place below the power of two with
which the next one starts. -/
theorem strictMono_unitsOf : StrictMono unitsOf := by
  refine strictMono_nat_of_lt_succ fun n => ?_
  have hb : 0 < binade := by decide
  have hr : n % binade < binade := Nat.mod_lt n hb
  rcases Nat.lt_or_ge (n + 1) binade with hn | hn
  · rw [unitsOf_of_lt hn, unitsOf_of_lt (by omega)]
    exact Nat.lt_succ_self n
  rcases Nat.eq_or_lt_of_le hn with hn | hn
  · have hone : unitsOf (binade * (0 + 1) + 0) = (0 + binade) * 2 ^ 0 := unitsOf_binade hb
    rw [unitsOf_of_lt (by omega), ← hn]
    simp only [Nat.zero_add, Nat.mul_one, Nat.add_zero, pow_zero] at hone
    omega
  obtain ⟨q, hq⟩ := Nat.exists_eq_succ_of_ne_zero (Nat.div_pos (Nat.le_of_lt_succ hn) hb).ne'
  have hsplit : n = binade * (q + 1) + n % binade := by
    rw [← Nat.succ_eq_add_one q, ← hq, Nat.div_add_mod]
  generalize n % binade = r at hr hsplit
  subst hsplit
  rw [unitsOf_binade hr]
  rcases Nat.eq_or_lt_of_le (Nat.succ_le_of_lt hr) with hlast | hlast
  · have hnext : binade * (q + 1) + r + 1 = binade * (q + 1 + 1) + 0 := by
      rw [Nat.mul_succ binade (q + 1)]
      omega
    rw [hnext, unitsOf_binade hb, Nat.zero_add, pow_succ, ← Nat.mul_assoc, Nat.mul_right_comm]
    exact Nat.mul_lt_mul_of_pos_right (by omega) (Nat.two_pow_pos q)
  · rw [Nat.add_assoc, unitsOf_binade hlast]
    exact Nat.mul_lt_mul_of_pos_right (by omega) (Nat.two_pow_pos q)

theorem unitsPerOne_pos : (0 : ℚ) < unitsPerOne := by
  have hp : ∀ k, 0 < Nat.pow 2 k := Nat.two_pow_pos
  rw [Nat.cast_pos]
  unfold unitsPerOne
  apply hp

theorem value_lt_iff : x.value < y.value ↔ x.signedUnits < y.signedUnits := by
  rw [value, value, div_lt_div_iff_of_pos_right unitsPerOne_pos, Int.cast_lt]

theorem value_inj : x.value = y.value ↔ x.signedUnits = y.signedUnits := by
  rw [value, value, div_left_inj' unitsPerOne_pos.ne', Int.cast_inj]

/-- **The total order is the order of the values.** Of equal values, which are those of the two zeros, the
one with the sign comes first. -/
theorem atMost_iff_value :
    x.AtMost y ↔ x.value < y.value ∨
      (x.value = y.value ∧ (y.isNegative = true → x.isNegative = true)) := by
  have hle : x.units ≤ y.units ↔ x.word ≤ y.word := strictMono_unitsOf.le_iff_le
  have hge : y.units ≤ x.units ↔ y.word ≤ x.word := strictMono_unitsOf.le_iff_le
  rw [← orderKey_le_iff, value_lt_iff, value_inj, orderKey, orderKey, signedUnits, signedUnits]
  cases x.isNegative <;> cases y.isNegative <;>
    simp only [Bool.false_eq_true, if_false, if_true, forall_const, IsEmpty.forall_iff, and_true,
      and_false, or_false] <;>
    omega

theorem AtMost.value_le (h : x.AtMost y) : x.value ≤ y.value :=
  (atMost_iff_value.mp h).elim le_of_lt fun h => h.1.le

end DocSearch.Binary64
