import Mathlib
import DocSearch.Proofs.Binary64.Order
import DocSearch.Proofs.Text.Numeral
import DocSearch.Query.Term
/-!
# The sizes of a query

* `Binary64.Final`; `Binary64.final_of_read?`: a numeral ends with a digit or with its point, hence not
  with the letter of a unit.
* `IsSize`: the sizes that a value is read as, told by a numeral, a unit and a letter that may follow.
* **`bytes?_eq_some_iff`**: these are read, and nothing else.
-/

namespace DocSearch

namespace Binary64

/-! ## The end of a numeral -/

/-- The text ends with a digit or a point, if it does not end at once. -/
def Final (cs : List Char) : Prop := ∀ c ∈ cs.getLast?, c = '.' ∨ c.isDigit = true

theorem Final.append {l r : List Char} (hl : ∀ c ∈ l, c = '.' ∨ c.isDigit = true) (hr : Final r) :
    Final (l ++ r) := by
  intro c hc
  rcases r with _ | ⟨d, r⟩
  · rw [List.append_nil] at hc
    exact hl c (List.mem_of_mem_getLast? hc)
  · rw [List.getLast?_append_of_ne_nil _ (List.cons_ne_nil d r)] at hc
    exact hr c hc

theorem Final.of_suffix {cs r : List Char} (h : r <:+ cs) (hne : r ≠ []) (hr : Final r) : Final cs := by
  obtain ⟨l, rfl⟩ := h
  intro c hc
  rw [List.getLast?_append_of_ne_nil _ hne] at hc
  exact hr c hc

theorem takeSign_suffix (cs : List Char) : (takeSign cs).2 <:+ cs := by
  unfold takeSign
  split
  · exact List.suffix_cons ..
  · exact List.suffix_cons ..
  · exact List.suffix_rfl

theorem spanDigits_append (cs : List Char) :
    (spanDigits cs).1 ++ (spanDigits cs).2 = cs ∧
      ∀ c ∈ (spanDigits cs).1, c = '.' ∨ c.isDigit = true := by
  rw [spanDigits, List.span_eq_takeWhile_dropWhile]
  refine ⟨List.takeWhile_append_dropWhile, fun c hc => .inr ?_⟩
  have hdigit := List.mem_takeWhile_imp hc
  rw [Bool.and_eq_true, decide_eq_true_eq, decide_eq_true_eq] at hdigit
  exact Char.isDigit_iff_toNat.mpr hdigit

theorem takeFraction_append (cs : List Char) :
    ∃ l, l ++ (takeFraction cs).2 = cs ∧ (∀ c ∈ l, c = '.' ∨ c.isDigit = true) ∧
      (l = [] → (takeFraction cs).1 = []) := by
  unfold takeFraction
  split
  · rename_i cs
    obtain ⟨happend, hdigits⟩ := spanDigits_append cs
    refine ⟨'.' :: (spanDigits cs).1, congrArg (List.cons '.') happend, ?_, nofun⟩
    exact List.forall_mem_cons.mpr ⟨.inl rfl, hdigits⟩
  · exact ⟨[], rfl, List.forall_mem_nil _, fun _ => rfl⟩

theorem final_of_readExponent? {cs : List Char} {e : Int} (h : readExponent? cs = some e) :
    Final cs := by
  rcases cs with _ | ⟨c, cs⟩
  · exact nofun
  · rw [readExponent?] at h
    split at h
    · obtain ⟨_, hn, -⟩ := Option.map_eq_some_iff.mp h
      obtain ⟨n, hn, -⟩ := Option.bind_eq_some_iff.mp hn
      obtain ⟨hne, hdigits, -⟩ := Text.digits?_eq_some_iff.mp hn
      have hfinal : Final (takeSign cs).2 :=
        fun d hd => .inr (hdigits d (List.mem_of_mem_getLast? hd))
      exact hfinal.of_suffix ((takeSign_suffix cs).trans (List.suffix_cons c cs)) hne
    · cases h

/-- **A numeral ends with a digit or a point.** -/
theorem final_of_read? {cs : List Char} {x : Binary64} (h : read? cs = some x) :
    cs ≠ [] ∧ Final cs := by
  set signed := (takeSign cs).2
  set behind := (spanDigits signed).2
  have hread : read? cs = if (spanDigits signed).1.isEmpty && (takeFraction behind).1.isEmpty then none
      else (readExponent? (takeFraction behind).2).map fun e =>
        ofDecimal (takeSign cs).1 (digitsValue ((spanDigits signed).1 ++ (takeFraction behind).1))
          (e - (takeFraction behind).1.length) := rfl
  rw [hread] at h
  split_ifs at h with hempty
  obtain ⟨e, he, -⟩ := Option.map_eq_some_iff.mp h
  obtain ⟨hwhole, hdigits⟩ := spanDigits_append signed
  obtain ⟨point, hfraction, hpoint, hnone⟩ := takeFraction_append behind
  have hbehind : Final behind := hfraction ▸ (final_of_readExponent? he).append hpoint
  have hsigned : Final signed := hwhole ▸ hbehind.append hdigits
  have hne : signed ≠ [] := by
    intro hnil
    obtain ⟨hw, hb⟩ := List.append_eq_nil_iff.mp (hwhole.trans hnil)
    have hp : point = [] := (List.append_eq_nil_iff.mp (hfraction.trans hb)).1
    rw [hw, hnone hp] at hempty
    exact hempty rfl
  refine ⟨?_, hsigned.of_suffix (takeSign_suffix cs) hne⟩
  rintro rfl
  exact hne (List.suffix_nil.mp (takeSign_suffix []))

/-! ## Rounding -/

variable {x : Binary64}

theorem units_eq_zero_iff : x.units = 0 ↔ x.word = 0 := by
  have hzero : unitsOf 0 = 0 := unitsOf_of_lt (by decide)
  conv_lhs => rw [units_eq, ← hzero, strictMono_unitsOf.injective.eq_iff]

theorem value_nonneg : 0 ≤ x.value ↔ 0 ≤ x.signedUnits := by
  rw [value, le_div_iff₀ unitsPerOne_pos, zero_mul, Int.cast_nonneg_iff]

/-- A number is not negative if it has no sign or is a zero. -/
theorem value_nonneg_iff : 0 ≤ x.value ↔ (!x.isNegative || x.word = 0) = true := by
  rw [value_nonneg, signedUnits]
  cases x.isNegative <;> simp [units_eq_zero_iff]

theorem value_of_nonneg (h : 0 ≤ x.value) : x.value = x.units / unitsPerOne := by
  have hunits : x.signedUnits = x.units := by
    rw [value_nonneg] at h
    unfold signedUnits at h ⊢
    split_ifs at h ⊢ <;> omega
  rw [value, hunits, Int.cast_natCast]

/-- **A magnitude is rounded to whole numbers, a half upwards.** -/
theorem roundScaled_eq (h : 0 ≤ x.value) (power : Nat) :
    x.roundScaled power = ⌊x.value * 2 ^ power + 1 / 2⌋₊ := by
  have hpos := unitsPerOne_pos
  have hquotient : x.value * 2 ^ power + 1 / 2 =
      ((2 * (x.units * 2 ^ power) + unitsPerOne : Nat) : ℚ) / (2 * unitsPerOne : Nat) := by
    rw [value_of_nonneg h]
    push_cast
    field_simp
  rw [hquotient, Nat.floor_div_eq_div]
  rfl

end Binary64

namespace Query

/-! ## Numerals, units and a letter behind them -/

/-- The units of a size, with the powers of two for which they stand. -/
def sizeUnits : List (String × Nat) := [("", 0), ("k", 10), ("m", 20), ("g", 30)]

/-- The value says a number of bytes: a numeral, not negative, with a unit and a `b` behind it or without
them, in any letter case. Bytes are rounded to whole ones, a half upwards, and kept within an unsigned
word. -/
def IsSize (value : String) (n : Nat) : Prop :=
  ∃ numeral x, ∃ unit ∈ sizeUnits, ∃ b ∈ ["", "b"],
    Text.lower value = numeral ++ unit.1 ++ b ∧ Binary64.read? numeral.toList = some x ∧
    x.isFinite = true ∧ 0 ≤ x.value ∧ n = min ⌊x.value * 2 ^ unit.2 + 1 / 2⌋₊ (2 ^ 64 - 1)

/-- A value in lowercase, less one `b` at its end. -/
def stem (value : String) : List Char :=
  (lessLast? 'b' (Text.lower value).toList).getD (Text.lower value).toList

theorem exists_stem (value : String) :
    ∃ b ∈ ["", "b"], stem value ++ b.toList = (Text.lower value).toList := by
  unfold stem lessLast?
  split_ifs with h
  · exact ⟨"b", by decide, List.dropLast_append_getLast? _ h⟩
  · exact ⟨"", by decide, List.append_nil _⟩

theorem stem_eq {value b : String} (hb : b ∈ ["", "b"]) {cs : List Char}
    (h : cs ++ b.toList = (Text.lower value).toList) (hlast : cs.getLast? ≠ some 'b') :
    stem value = cs := by
  rw [List.mem_cons, List.mem_singleton] at hb
  unfold stem lessLast?
  rw [← h]
  rcases hb with rfl | rfl
  · rw [show "".toList = [] from rfl, List.append_nil, if_neg hlast]
    rfl
  · rw [show "b".toList = ['b'] from rfl, List.getLast?_concat, if_pos rfl, List.dropLast_concat]
    rfl

/-- The characters before the unit, which the last one decides. -/
def cutUnit (cs : List Char) (last : Char) : List Char :=
  if unitPower last = 0 then cs else cs.dropLast

theorem exists_unit {cs : List Char} {last : Char} (h : cs.getLast? = some last) :
    ∃ unit ∈ sizeUnits, unit.2 = unitPower last ∧ cutUnit cs last ++ unit.1.toList = cs := by
  obtain ⟨hne, rfl⟩ := List.mem_getLast?_eq_getLast (Option.mem_def.mpr h)
  have hcut := List.dropLast_append_getLast hne
  generalize cs.getLast hne = last at hcut
  unfold cutUnit unitPower
  split
  · exact ⟨("k", 10), by decide, rfl, hcut⟩
  · exact ⟨("m", 20), by decide, rfl, hcut⟩
  · exact ⟨("g", 30), by decide, rfl, hcut⟩
  · exact ⟨("", 0), by decide, rfl, List.append_nil cs⟩

theorem unitPower_of_final {c : Char} (h : c = '.' ∨ c.isDigit = true) : unitPower c = 0 ∧ c ≠ 'b' := by
  have hne : ∀ letter ∈ ['k', 'm', 'g', 'b'], c ≠ letter := by
    intro letter hletter he
    subst he
    rcases h with rfl | h
    · exact absurd hletter (by decide)
    · rw [Char.isDigit_iff_toNat] at h
      fin_cases hletter <;> exact absurd h (by decide)
  refine ⟨?_, hne 'b' (by decide)⟩
  unfold unitPower
  split
  · exact absurd rfl (hne 'k' (by decide))
  · exact absurd rfl (hne 'm' (by decide))
  · exact absurd rfl (hne 'g' (by decide))
  · rfl

theorem cutUnit_append {numeral : List Char} (hne : numeral ≠ []) (hf : Binary64.Final numeral)
    {unit : String × Nat} (hu : unit ∈ sizeUnits) :
    ∃ last, (numeral ++ unit.1.toList).getLast? = some last ∧ unitPower last = unit.2 ∧
      last ≠ 'b' ∧ cutUnit (numeral ++ unit.1.toList) last = numeral := by
  simp only [sizeUnits, List.mem_cons, List.not_mem_nil, or_false] at hu
  have hcut : ∀ letter, unitPower letter ≠ 0 → cutUnit (numeral ++ [letter]) letter = numeral := by
    intro letter hpower
    rw [cutUnit, if_neg hpower, List.dropLast_concat]
  rcases hu with rfl | rfl | rfl | rfl
  · obtain ⟨hpower, hb⟩ := unitPower_of_final (hf _ (List.getLast?_eq_getLast_of_ne_nil hne))
    refine ⟨numeral.getLast hne, ?_, hpower, hb, ?_⟩
    · rw [show "".toList = [] from rfl, List.append_nil]
      exact List.getLast?_eq_getLast_of_ne_nil hne
    · rw [cutUnit, if_pos hpower]
      exact List.append_nil numeral
  · exact ⟨'k', List.getLast?_concat, rfl, by decide, hcut 'k' (by decide)⟩
  · exact ⟨'m', List.getLast?_concat, rfl, by decide, hcut 'm' (by decide)⟩
  · exact ⟨'g', List.getLast?_concat, rfl, by decide, hcut 'g' (by decide)⟩

theorem bytes?_eq {value : String} (hb : ∀ c ∈ value.toList, Text.isBlank c = false) :
    bytes? value = (stem value).getLast?.bind fun last =>
      (Binary64.read? (cutUnit (stem value) last)).bind fun x =>
        if x.isFinite && (!x.isNegative || x.word = 0) then
          some (min (x.roundScaled (unitPower last)) (2 ^ 64 - 1))
        else none := by
  have hstem : stem value = (lessLast? 'b' (Text.lowerChars (Text.trimChars value.toList))).getD
      (Text.lowerChars (Text.trimChars value.toList)) := by
    rw [Text.trimChars_eq_self hb, stem, Text.lower, String.toList_ofList]
  rw [hstem]
  rfl

/-- **The sizes that are read are those that a value says.** -/
theorem bytes?_eq_some_iff {value : String} (hb : ∀ c ∈ value.toList, Text.isBlank c = false) {n : Nat} :
    bytes? value = some n ↔ IsSize value n := by
  rw [bytes?_eq hb]
  constructor
  · intro h
    obtain ⟨last, hlast, h⟩ := Option.bind_eq_some_iff.mp h
    obtain ⟨x, hx, h⟩ := Option.bind_eq_some_iff.mp h
    split_ifs at h with hsize
    obtain ⟨hfinite, hsign⟩ := Bool.and_eq_true_iff.mp hsize
    have hnonneg := Binary64.value_nonneg_iff.mpr hsign
    obtain ⟨b, hb, hstem⟩ := exists_stem value
    obtain ⟨unit, hunit, hpower, hcut⟩ := exists_unit hlast
    refine ⟨.ofList (cutUnit (stem value) last), x, unit, hunit, b, hb, ?_, ?_, hfinite, hnonneg, ?_⟩
    · rw [← String.toList_inj, String.toList_append, String.toList_append, String.toList_ofList, hcut,
        hstem]
    · rwa [String.toList_ofList]
    · rw [hpower, ← Binary64.roundScaled_eq hnonneg]
      exact (Option.some.inj h).symm
  · rintro ⟨numeral, x, unit, hunit, b, hb, htext, hx, hfinite, hnonneg, rfl⟩
    obtain ⟨hne, hfinal⟩ := Binary64.final_of_read? hx
    obtain ⟨last, hlast, hpower, hlastb, hcut⟩ := cutUnit_append hne hfinal hunit
    have hstem : stem value = numeral.toList ++ unit.1.toList := by
      apply stem_eq hb
      · rw [htext, String.toList_append, String.toList_append]
      · rw [hlast]
        exact fun h => hlastb (Option.some.inj h)
    rw [hstem, hlast, Option.bind_some, hcut, hx, Option.bind_some, if_pos, hpower,
      Binary64.roundScaled_eq hnonneg]
    rw [Bool.and_eq_true]
    exact ⟨hfinite, Binary64.value_nonneg_iff.mp hnonneg⟩

end Query

end DocSearch
