import Mathlib
import DocSearch.Proofs.Text.Blank
import DocSearch.Text.Numeral
/-!
# Decimal numerals are read back

* `digits?_toDigits`: the digits of a number are read as that number.
* **`natural?_toString`**, **`integer?_toString`**: so is its decimal text, as long as a word of 64
  bits holds the number, and `trim_toString`: trimming leaves that text alone.
* `IsNumeral`: the decimal numerals of a number; **`natural?_eq_some_iff`**: these are read, and nothing
  else, as long as a word of 64 bits holds the number. `integer?_eq_natCast_iff`: so they are as positive
  signed words.
-/

namespace DocSearch.Text

theorem digit?_of_isDigit {c : Char} (h : c.isDigit = true) : digit? c = some (c.toNat - '0'.toNat) := by
  have h' := Char.isDigit_iff_toNat.mp h
  exact if_pos ⟨h'.1, h'.2⟩

theorem digitsFrom?_of_isDigit {ds : List Char} (h : ∀ c ∈ ds, c.isDigit = true) (acc : Nat) :
    digitsFrom? acc ds = some (Nat.ofDigitChars 10 ds acc) := by
  induction ds generalizing acc with
  | nil => rfl
  | cons c ds ih =>
    rw [digitsFrom?, digit?_of_isDigit (h c List.mem_cons_self), Option.bind_some,
      ih fun d hd => h d (List.mem_cons_of_mem _ hd), Nat.ofDigitChars_cons, Nat.mul_comm acc]

theorem isDigit_of_digit? {c : Char} {d : Nat} (h : digit? c = some d) : c.isDigit = true := by
  unfold digit? at h
  split_ifs at h with hc
  exact Char.isDigit_iff_toNat.mpr ⟨hc.1, hc.2⟩

theorem isDigit_of_digitsFrom? {ds : List Char} {acc n : Nat} (h : digitsFrom? acc ds = some n) :
    ∀ c ∈ ds, c.isDigit = true := by
  induction ds generalizing acc with
  | nil => exact List.forall_mem_nil _
  | cons c ds ih =>
    obtain ⟨d, hd, hds⟩ := Option.bind_eq_some_iff.mp h
    exact List.forall_mem_cons.mpr ⟨isDigit_of_digit? hd, ih hds⟩

theorem digits?_eq_some_iff {ds : List Char} {n : Nat} :
    digits? ds = some n ↔
      ds ≠ [] ∧ (∀ c ∈ ds, c.isDigit = true) ∧ Nat.ofDigitChars 10 ds 0 = n := by
  cases ds with
  | nil => simp [digits?]
  | cons d ds =>
    have hfrom : digits? (d :: ds) = digitsFrom? 0 (d :: ds) := rfl
    rw [hfrom]
    constructor
    · intro h
      have hdigits := isDigit_of_digitsFrom? h
      rw [digitsFrom?_of_isDigit hdigits] at h
      exact ⟨List.cons_ne_nil d ds, hdigits, Option.some.inj h⟩
    · rintro ⟨-, hdigits, hn⟩
      rw [digitsFrom?_of_isDigit hdigits, hn]

theorem isDigit_of_mem_toDigits {n : Nat} {c : Char} (h : c ∈ Nat.toDigits 10 n) :
    c.isDigit = true :=
  Nat.isDigit_of_mem_toDigits (by decide) le_rfl h

theorem digits?_toDigits (n : Nat) : digits? (Nat.toDigits 10 n) = some n := by
  have h : digitsFrom? 0 (Nat.toDigits 10 n) = some n := by
    rw [digitsFrom?_of_isDigit fun c hc => isDigit_of_mem_toDigits hc,
      Nat.ofDigitChars_ten_toDigits]
  cases hd : Nat.toDigits 10 n with
  | nil => exact absurd hd Nat.toDigits_ne_nil
  | cons d ds => rwa [hd] at h

theorem toList_toString (n : Nat) : (toString n).toList = Nat.toDigits 10 n := by
  rw [Nat.toString_eq_repr, Nat.toList_repr]

theorem toList_toString_negSucc (n : Nat) :
    (toString (Int.negSucc n)).toList = '-' :: Nat.toDigits 10 (n + 1) := by
  change ("-" ++ Nat.repr (n + 1)).toList = _
  rw [String.toList_append, Nat.toList_repr]
  rfl

theorem head_toDigits (n : Nat) :
    ∃ d ds, Nat.toDigits 10 n = d :: ds ∧ d ≠ '+' ∧ d ≠ '-' := by
  cases h : Nat.toDigits 10 n with
  | nil => exact absurd h Nat.toDigits_ne_nil
  | cons d ds =>
    have hd : d.isDigit = true := isDigit_of_mem_toDigits (h ▸ List.mem_cons_self)
    refine ⟨d, ds, rfl, ?_, ?_⟩ <;> rintro rfl <;> simp at hd

/-- The text is a decimal numeral of the number: digits, with a plus in front of them or not. -/
def IsNumeral (s : String) (n : Nat) : Prop :=
  ∃ ds : List Char, (s.toList = ds ∨ s.toList = '+' :: ds) ∧
    ds ≠ [] ∧ (∀ c ∈ ds, c.isDigit = true) ∧ Nat.ofDigitChars 10 ds 0 = n

/-- The characters behind a plus, all of them where there is none. -/
def unsigned : List Char → List Char
  | '+' :: cs => cs
  | cs => cs

theorem isNumeral_iff {s : String} {n : Nat} :
    IsNumeral s n ↔ digits? (unsigned s.toList) = some n := by
  unfold IsNumeral unsigned
  simp only [← digits?_eq_some_iff]
  split
  · rename_i cs heq
    rw [heq]
    constructor
    · rintro ⟨ds, rfl | hds, h⟩
      -- The plus itself is no digit.
      · have hplus := (digits?_eq_some_iff.mp h).2.1 '+' List.mem_cons_self
        simp at hplus
      · obtain rfl := (List.cons.inj hds).2
        exact h
    · exact fun h => ⟨cs, .inr rfl, h⟩
  · rename_i hplus
    constructor
    · rintro ⟨ds, rfl | hds, h⟩
      · exact h
      · exact absurd hds (hplus ds)
    · exact fun h => ⟨s.toList, .inl rfl, h⟩

/-- **What is read as an unsigned word** is a numeral of a number that such a word holds. -/
theorem natural?_eq_some_iff {s : String} {n : Nat} :
    natural? s = some n ↔ IsNumeral s n ∧ n < wordBound := by
  have hread : natural? s = (digits? (unsigned s.toList)).filter (· < wordBound) := rfl
  rw [hread, Option.filter_eq_some_iff, isNumeral_iff, decide_eq_true_eq]

theorem natural?_toString {n : Nat} (h : n < wordBound) : natural? (toString n) = some n := by
  obtain ⟨d, ds, hd, hp, -⟩ := head_toDigits n
  have hn := digits?_toDigits n
  rw [hd] at hn
  unfold natural?
  rw [toList_toString, hd]
  simp [hp, hn, h]

/-- The text of a number is read as a signed word exactly when such a word holds the number. -/
theorem integer?_toString_eq (n : Nat) :
    integer? (toString n) = if n < signedBound then some (n : Int) else none := by
  obtain ⟨d, ds, hd, hp, hm⟩ := head_toDigits n
  have hn := digits?_toDigits n
  rw [hd] at hn
  unfold integer?
  rw [toList_toString, hd]
  split_ifs with h
  · simp [hp, hm, hn, h]
  · simp [hp, hm, hn, Nat.le_of_not_lt h]

theorem integer?_toString {n : Nat} (h : n < signedBound) :
    integer? (toString n) = some (n : Int) := by
  rw [integer?_toString_eq, if_pos h]

/-- **What is read as a positive signed word** is a numeral of a number that such a word holds. -/
theorem integer?_eq_natCast_iff {s : String} {n : Nat} (hn : 0 < n) :
    integer? s = some (n : Int) ↔ IsNumeral s n ∧ n < signedBound := by
  have hread : ((digits? (unsigned s.toList)).filter (· < signedBound)).map Int.ofNat = some (n : Int) ↔
      IsNumeral s n ∧ n < signedBound := by
    rw [isNumeral_iff, Option.map_eq_some_iff]
    simp [Option.filter_eq_some_iff]
  rw [← hread]
  unfold integer? unsigned
  split
  · rename_i cs heq
    rw [heq]
    -- Behind a minus stands no positive number, and the minus itself is no digit.
    have hminus : digits? ('-' :: cs) = none := rfl
    have hneg : ∀ m : Nat, -(m : Int) ≠ n := fun m h => by omega
    simp [hminus, Option.bind_eq_some_iff, hneg]
  · rename_i cs heq
    rw [heq]
    exact Iff.rfl
  · rename_i hplus
    split
    · rename_i heq
      exact absurd heq (hplus _)
    · rfl

theorem isBlank_of_isDigit {c : Char} (h : c.isDigit = true) : isBlank c = false := by
  have h' : 48 ≤ c.toNat ∧ c.toNat ≤ 57 := Char.isDigit_iff_toNat.mp h
  exact isBlank_eq_false (by omega) (by omega)

theorem trim_toString (n : Nat) : trim (toString n) = toString n :=
  trim_eq_self fun _ hc => isBlank_of_isDigit (isDigit_of_mem_toDigits (toList_toString n ▸ hc))

end DocSearch.Text
