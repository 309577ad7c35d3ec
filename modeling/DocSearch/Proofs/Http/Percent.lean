import Mathlib
import DocSearch.Http.Percent
import DocSearch.Proofs.Text.Utf8
/-!
# What percent codes stand for

* `codes`: how many percent signs of a text start a code.
* `decode_cons`, `decode_hex`: the steps of a reader, and the induction along them.
* **`decode_encode_eq`**: characters may be written as codes without changing what a text stands
  for.
* **`length_decode`**: a code takes three bytes and stands for one.
* `decode_of_codes_eq_zero`: a text without codes stands for its own bytes.
-/

namespace DocSearch.Percent

/-- Two hexadecimal digits come first. -/
def startsHex : List Char → Bool
  | a :: b :: _ => (hexValue? a).isSome && (hexValue? b).isSome
  | _ => false

/-- How many percent signs are followed by two hexadecimal digits. -/
def codes : List Char → Nat
  | [] => 0
  | c :: cs => (if c = '%' ∧ startsHex cs = true then 1 else 0) + codes cs

/-! ## The steps of a reader -/

theorem hexValue?_hexDigit {n : Nat} (h : n < 16) : hexValue? (hexDigit n) = some n := by
  have : ∀ n < 16, hexValue? (hexDigit n) = some n := by decide
  exact this n h

theorem toNat_lt_of_hexValue? {c : Char} {n : Nat} (h : hexValue? c = some n) :
    c.toNat < 0x80 := by
  unfold hexValue? at h
  by_cases h₁ : '0' ≤ c ∧ c ≤ '9'
  · exact Nat.lt_of_le_of_lt (show c.toNat ≤ '9'.toNat from h₁.2) (by decide)
  by_cases h₂ : 'A' ≤ c ∧ c ≤ 'F'
  · exact Nat.lt_of_le_of_lt (show c.toNat ≤ 'F'.toNat from h₂.2) (by decide)
  by_cases h₃ : 'a' ≤ c ∧ c ≤ 'f'
  · exact Nat.lt_of_le_of_lt (show c.toNat ≤ 'f'.toNat from h₃.2) (by decide)
  rw [if_neg h₁, if_neg h₂, if_neg h₃] at h
  cases h

theorem ne_percent_of_hexValue? {c : Char} {n : Nat} (h : hexValue? c = some n) : c ≠ '%' := by
  rintro rfl
  rw [show hexValue? '%' = none by decide] at h
  cases h

theorem startsHex_eq_true_iff {cs : List Char} : startsHex cs = true ↔
    ∃ a b rest x y, cs = a :: b :: rest ∧ hexValue? a = some x ∧ hexValue? b = some y := by
  constructor
  · intro h
    match cs with
    | a :: b :: rest =>
      obtain ⟨⟨x, hx⟩, y, hy⟩ : (∃ x, hexValue? a = some x) ∧ ∃ y, hexValue? b = some y := by
        simpa [startsHex, Option.isSome_iff_exists] using h
      exact ⟨a, b, rest, x, y, rfl, hx, hy⟩
  · rintro ⟨a, b, rest, x, y, rfl, hx, hy⟩
    simp [startsHex, hx, hy]

theorem decode_hex {a b : Char} {x y : Nat} (hx : hexValue? a = some x) (hy : hexValue? b = some y)
    (cs : List Char) : decode ('%' :: a :: b :: cs) = UInt8.ofNat (x * 16 + y) :: decode cs := by
  rw [decode, hx, hy]

theorem decode_cons {c : Char} {cs : List Char} (h : c = '%' → startsHex cs = false) :
    decode (c :: cs) = String.utf8EncodeChar c ++ decode cs := by
  by_cases hc : c = '%'
  · subst hc
    match cs with
    | [] => rfl
    | [_] => rfl
    | a :: b :: rest =>
      rw [decode]
      split
      · next x y hx hy =>
        rw [startsHex_eq_true_iff.mpr ⟨a, b, rest, x, y, rfl, hx, hy⟩] at h
        exact absurd (h rfl) (by decide)
      · rfl
  · rw [decode]
    rintro a b rest rfl
    exact absurd rfl hc

/-- A text is read character by character, up to the codes in it. -/
@[elab_as_elim]
theorem decode_induction {motive : List Char → Prop} (nil : motive [])
    (plain : ∀ c cs, (c = '%' → startsHex cs = false) → motive cs → motive (c :: cs))
    (code : ∀ a b x y cs, hexValue? a = some x → hexValue? b = some y → motive cs →
      motive ('%' :: a :: b :: cs)) (cs : List Char) : motive cs := by
  fun_induction decode cs with
  | case1 => exact nil
  | case2 a b rest x hx y hy ih => exact code a b x hx rest hy y ih
  | case3 a b rest hxy ih =>
    refine plain '%' (a :: b :: rest) (fun _ => ?_) ih
    by_contra hs
    obtain ⟨a', b', rest', x, y, h, hx, hy⟩ := startsHex_eq_true_iff.mp (by simpa using hs)
    obtain ⟨rfl, rfl, rfl⟩ : a = a' ∧ b = b' ∧ rest = rest' := by simpa using h
    exact hxy x y hx hy
  | case4 c rest hc ih =>
    refine plain c rest (fun h => ?_) ih
    by_contra hs
    obtain ⟨a, b, rest', -, -, rfl, -⟩ := startsHex_eq_true_iff.mp (by simpa using hs)
    exact hc a b rest' h rfl

theorem decode_code (b : UInt8) (cs : List Char) : decode (code b ++ cs) = b :: decode cs := by
  have hb : b.toNat < 256 := b.toNat_lt
  have hv : b.toNat / 16 * 16 + b.toNat % 16 = b.toNat := by omega
  rw [code, List.cons_append, List.cons_append, List.cons_append, List.nil_append,
    decode_hex (hexValue?_hexDigit (by omega)) (hexValue?_hexDigit (by omega)), hv,
    UInt8.ofNat_toNat]

theorem decode_flatMap_code (bs : List UInt8) (cs : List Char) :
    decode (bs.flatMap code ++ cs) = bs ++ decode cs := by
  induction bs with
  | nil => rfl
  | cons b bs ih => rw [List.flatMap_cons, List.append_assoc, decode_code, ih, List.cons_append]

theorem decode_ne_nil {cs : List Char} (h : cs ≠ []) : decode cs ≠ [] := by
  induction cs using decode_induction with
  | nil => exact absurd rfl h
  | plain c cs hc _ =>
    rw [decode_cons hc]
    exact List.append_ne_nil_of_left_ne_nil String.utf8EncodeChar_ne_nil _
  | code a b x y cs hx hy _ => rw [decode_hex hx hy]; exact List.cons_ne_nil _ _

/-! ## Writing characters as codes -/

section Encode

variable {p : Char → Bool}

theorem encode_cons (p : Char → Bool) (c : Char) (cs : List Char) :
    encode p (c :: cs) =
      (if p c then (String.utf8EncodeChar c).flatMap code else [c]) ++ encode p cs :=
  List.flatMap_cons

theorem encode_cons_neg {c : Char} (h : p c = false) (cs : List Char) :
    encode p (c :: cs) = c :: encode p cs := by
  rw [encode_cons, h, if_neg Bool.false_ne_true, List.singleton_append]

theorem encode_cons_pos {c : Char} (h : p c = true) (cs : List Char) :
    ∃ rest, encode p (c :: cs) = '%' :: rest := by
  obtain ⟨b, bs, hbs⟩ := List.exists_cons_of_ne_nil (String.utf8EncodeChar_ne_nil (c := c))
  rw [encode_cons, h, if_pos rfl, hbs, List.flatMap_cons]
  exact ⟨_, rfl⟩

theorem mem_encode {c : Char} {cs : List Char} (h : c ∈ encode p cs) :
    c ∈ cs ∧ p c = false ∨ c = '%' ∨ ∃ n, hexValue? c = some n := by
  obtain ⟨d, hd, hc⟩ := List.mem_flatMap.mp h
  by_cases hp : p d = true
  · rw [if_pos hp] at hc
    obtain ⟨b, -, hb⟩ := List.mem_flatMap.mp hc
    have hlt : b.toNat < 256 := b.toNat_lt
    simp only [code, List.mem_cons, List.not_mem_nil, or_false] at hb
    rcases hb with rfl | rfl | rfl
    · exact .inr (.inl rfl)
    · exact .inr (.inr ⟨_, hexValue?_hexDigit (by omega)⟩)
    · exact .inr (.inr ⟨_, hexValue?_hexDigit (by omega)⟩)
  · rw [if_neg hp, List.mem_singleton] at hc
    subst hc
    exact .inl ⟨hd, by simpa using hp⟩

theorem startsHex_encode (hp : ∀ c, p c = true → hexValue? c = none) (cs : List Char) :
    startsHex (encode p cs) = startsHex cs := by
  have hnone : ∀ {a : Char} (rest : List Char), hexValue? a = none →
      startsHex (a :: rest) = false := by
    intro a rest h
    cases rest <;> simp [startsHex, h]
  match cs with
  | [] => rfl
  | a :: cs =>
    by_cases ha : p a = true
    · obtain ⟨rest, hr⟩ := encode_cons_pos ha cs
      rw [hr, hnone rest (by decide), hnone cs (hp a ha)]
    rw [encode_cons_neg (by simpa using ha)]
    match cs with
    | [] => rfl
    | b :: cs =>
      by_cases hb : p b = true
      · obtain ⟨rest, hr⟩ := encode_cons_pos hb cs
        rw [hr, startsHex, startsHex, hp b hb, show hexValue? '%' = none by decide]
      · rw [encode_cons_neg (by simpa using hb), startsHex, startsHex]

/-- **Characters may be written as codes without changing what a text stands for**, as long as
percent signs and hexadecimal digits are left alone. -/
theorem decode_encode_eq (hp : ∀ c, p c = true → hexValue? c = none) (hpercent : p '%' = false)
    (cs : List Char) : decode (encode p cs) = decode cs := by
  have hdigit : ∀ {c : Char} {n : Nat}, hexValue? c = some n → p c = false := by
    intro c n hc
    by_contra hpc
    rw [hp c (by simpa using hpc)] at hc
    cases hc
  induction cs using decode_induction with
  | nil => rfl
  | plain c cs hc ih =>
    by_cases hpc : p c = true
    · have hne : c ≠ '%' := fun h => by rw [h, hpercent] at hpc; cases hpc
      rw [encode_cons, if_pos hpc, decode_flatMap_code, ih, decode_cons hc]
    · rw [encode_cons_neg (by simpa using hpc), decode_cons hc, decode_cons, ih]
      exact fun h => by rw [startsHex_encode hp, hc h]
  | code a b x y cs hx hy ih =>
    rw [encode_cons_neg hpercent, encode_cons_neg (hdigit hx), encode_cons_neg (hdigit hy),
      decode_hex hx hy, decode_hex hx hy, ih]

end Encode

/-! ## How much a text stands for -/

theorem codes_cons {c : Char} {cs : List Char} (h : c = '%' → startsHex cs = false) :
    codes (c :: cs) = codes cs := by
  rw [codes, if_neg, Nat.zero_add]
  rintro ⟨hc, hs⟩
  rw [h hc] at hs
  cases hs

theorem codes_hex {a b : Char} {x y : Nat} (hx : hexValue? a = some x) (hy : hexValue? b = some y)
    (cs : List Char) : codes ('%' :: a :: b :: cs) = codes cs + 1 := by
  have hs : startsHex (a :: b :: cs) = true :=
    startsHex_eq_true_iff.mpr ⟨a, b, cs, x, y, rfl, hx, hy⟩
  rw [codes, if_pos ⟨rfl, hs⟩, codes_cons fun h => absurd h (ne_percent_of_hexValue? hx),
    codes_cons fun h => absurd h (ne_percent_of_hexValue? hy), Nat.add_comm]

theorem codes_eq_zero_of_not_mem {cs : List Char} (h : '%' ∉ cs) : codes cs = 0 := by
  induction cs with
  | nil => rfl
  | cons c cs ih =>
    rw [List.mem_cons, not_or] at h
    rw [codes_cons fun hc => absurd hc.symm h.1, ih h.2]

theorem length_utf8_of_hexValue? {c : Char} {n : Nat} (h : hexValue? c = some n) :
    (String.utf8EncodeChar c).length = 1 := by
  rcases Text.utf8EncodeChar_cases c with ⟨-, hc⟩ | ⟨hc, -⟩
  · rw [hc, List.length_singleton]
  · exact absurd (toNat_lt_of_hexValue? h) (Nat.not_lt.mpr hc)

/-- **A code takes three bytes and stands for one.** -/
theorem length_decode (cs : List Char) :
    (decode cs).length + 2 * codes cs = (cs.flatMap String.utf8EncodeChar).length := by
  induction cs using decode_induction with
  | nil => rfl
  | plain c cs hc ih =>
    rw [decode_cons hc, codes_cons hc, List.flatMap_cons, List.length_append, List.length_append]
    omega
  | code a b x y cs hx hy ih =>
    have hpercent : (String.utf8EncodeChar '%').length = 1 := by decide
    rw [decode_hex hx hy, codes_hex hx hy]
    simp only [List.flatMap_cons, List.length_append, List.length_cons, hpercent,
      length_utf8_of_hexValue? hx, length_utf8_of_hexValue? hy]
    omega

theorem decode_of_codes_eq_zero {cs : List Char} (h : codes cs = 0) :
    decode cs = cs.flatMap String.utf8EncodeChar := by
  induction cs using decode_induction with
  | nil => rfl
  | plain c cs hc ih =>
    rw [codes_cons hc] at h
    rw [decode_cons hc, List.flatMap_cons, ih h]
  | code a b x y cs hx hy ih =>
    rw [codes_hex hx hy] at h
    cases h

/-! ## Where a text is split -/

section Stop

variable {α : Type} {p : α → Bool} {x : α}

theorem dropWhile_append_stop (hx : p x = false) (l r : List α) :
    (l ++ x :: r).dropWhile p = l.dropWhile p ++ x :: r := by
  rw [List.dropWhile_append]
  split_ifs with h
  · rw [List.isEmpty_iff.mp h, List.dropWhile_cons_of_neg (by simp [hx]), List.nil_append]
  · rfl

theorem takeWhile_append_stop (hx : p x = false) (l r : List α) :
    (l ++ x :: r).takeWhile p = l.takeWhile p := by
  rw [List.takeWhile_append, List.takeWhile_cons_of_neg (by simp [hx]), List.append_nil]
  split_ifs with h
  · exact ((List.takeWhile_prefix p).eq_of_length h).symm
  · rfl

theorem rdropWhile_append_stop (hx : p x = false) (l r : List α) :
    (l ++ x :: r).rdropWhile p = l ++ x :: r.rdropWhile p := by
  have h : (l ++ x :: r).reverse = r.reverse ++ x :: l.reverse := by simp
  rw [List.rdropWhile, h, dropWhile_append_stop hx, List.rdropWhile]
  simp

end Stop

theorem forall_ne_of_not_mem {c : Char} {cs : List Char} (h : c ∉ cs) :
    ∀ d ∈ cs, decide (d ≠ c) = true := by
  intro d hd
  simpa using fun he : d = c => h (he ▸ hd)

theorem splitAt_of_not_mem {c : Char} {cs : List Char} (h : c ∉ cs) : splitAt c cs = (cs, []) := by
  rw [splitAt, List.takeWhile_eq_self_iff.mpr (forall_ne_of_not_mem h),
    List.dropWhile_eq_nil_iff.mpr (forall_ne_of_not_mem h)]
  rfl

theorem splitAt_append {c : Char} {cs : List Char} (h : c ∉ cs) (rest : List Char) :
    splitAt c (cs ++ c :: rest) = (cs, rest) := by
  rw [splitAt, takeWhile_append_stop (by simp), dropWhile_append_stop (by simp),
    List.takeWhile_eq_self_iff.mpr (forall_ne_of_not_mem h),
    List.dropWhile_eq_nil_iff.mpr (forall_ne_of_not_mem h)]
  rfl

end DocSearch.Percent
