import Mathlib
import DocSearch.Json.Parser
import DocSearch.Json.Printer
import DocSearch.Proofs.Binary64.Shortest
import DocSearch.Proofs.Json.Quote
import DocSearch.Proofs.Text.Numeral
/-!
# The texts of numbers

Every number is written by the rules of JSON, so the scanner takes all of its text and no more.

* `IsDigits`, `IsWhole`: digits as they may stand behind and before a point.
* `Numeral.text`, `Numeral.WellFormed`: the text of a numeral, and the rules for it.
* `Stops`: what may follow a number. **`scanNumber_text`**: a numeral is read back from its text.
* `Writes`: some characters are the text of a numeral; `writes_toString`, `writes_place`, `writes_render`.
* **`exists_numeral`**: the text of every number is that of a numeral, and `scan_number`: its form.
* `numberForm_word`: a word is read back as it is.
-/

namespace DocSearch.Json

/-! ## Digits as bytes -/

/-- Characters below `0x80` as bytes. -/
def asciiBytes (cs : List Char) : List UInt8 := cs.map fun c => UInt8.ofNat c.toNat

/-- All characters are decimal digits. -/
def AllDigits (cs : List Char) : Prop := ∀ c ∈ cs, c.isDigit = true

/-- One digit or more. -/
structure IsDigits (ds : List Char) : Prop where
  digits : AllDigits ds
  nonempty : ds ≠ []

/-- Digits as they stand before a point: no zero leads others. -/
structure IsWhole (ds : List Char) : Prop extends IsDigits ds where
  leading : ds = ['0'] ∨ ds.head? ≠ some '0'

theorem flatMap_utf8_of_ascii {cs : List Char} (h : ∀ c ∈ cs, c.toNat < 0x80) :
    cs.flatMap String.utf8EncodeChar = asciiBytes cs := by
  have hone : ∀ c ∈ cs, String.utf8EncodeChar c = [UInt8.ofNat c.toNat] := by
    intro c hc
    rcases Text.utf8EncodeChar_cases c with ⟨-, e⟩ | ⟨hlarge, -⟩
    · exact e
    · exact absurd (h c hc) (Nat.not_lt.mpr hlarge)
  rw [List.flatMap_congr hone, asciiBytes, ← List.flatMap_singleton' (cs.map _), List.flatMap_map]

theorem toNat_of_isDigit {c : Char} (h : c.isDigit = true) :
    48 ≤ (UInt8.ofNat c.toNat).toNat ∧ (UInt8.ofNat c.toNat).toNat ≤ 57 ∧
      Char.ofNat (UInt8.ofNat c.toNat).toNat = c := by
  have hc : 48 ≤ c.toNat ∧ c.toNat ≤ 57 := Char.isDigit_iff_toNat.mp h
  have ht : (UInt8.ofNat c.toNat).toNat = c.toNat := UInt8.toNat_ofNat_of_lt' (by change _ < 256; omega)
  rw [ht]
  exact ⟨hc.1, hc.2, Char.ofNat_toNat c⟩

theorem isDigitByte_iff {b : UInt8} : isDigitByte b = true ↔ 48 ≤ b.toNat ∧ b.toNat ≤ 57 := by
  simp [isDigitByte, UInt8.le_iff_toNat_le]

/-- No further digit stands at the front. -/
def NoDigit (rest : List UInt8) : Prop := ∀ b ∈ rest.head?, isDigitByte b = false

theorem spanDigitBytes_append {ds : List Char} (hd : AllDigits ds) {rest : List UInt8}
    (hr : NoDigit rest) : spanDigitBytes (asciiBytes ds ++ rest) = (ds, rest) := by
  have hall : ∀ b ∈ asciiBytes ds, isDigitByte b = true := by
    intro b hb
    obtain ⟨c, hc, rfl⟩ := List.mem_map.mp hb
    obtain ⟨hlow, hhigh, -⟩ := toNat_of_isDigit (hd c hc)
    exact isDigitByte_iff.mpr ⟨hlow, hhigh⟩
  have htake : rest.takeWhile isDigitByte = [] ∧ rest.dropWhile isDigitByte = rest := by
    cases rest with
    | nil => exact ⟨rfl, rfl⟩
    | cons b rest =>
      have hb : ¬ isDigitByte b = true := by simp [hr b rfl]
      exact ⟨List.takeWhile_cons_of_neg hb, List.dropWhile_cons_of_neg hb⟩
  have hback : (asciiBytes ds).map (fun b => Char.ofNat b.toNat) = ds := by
    rw [asciiBytes, List.map_map]
    exact (List.map_congr_left fun c hc => (toNat_of_isDigit (hd c hc)).2.2).trans (List.map_id' ds)
  rw [spanDigitBytes, List.takeWhile_append_of_pos hall, List.dropWhile_append_of_pos hall, htake.1,
    htake.2, List.append_nil, hback]

/-! ## Numerals -/

namespace Numeral

/-- The digits behind the point. -/
def fractionText : Option (List Char) → List Char
  | some ds => '.' :: ds
  | none => []

/-- The exponent with its letter. A plus is not written. -/
def exponentText : Option (Bool × List Char) → List Char
  | some (true, ds) => 'e' :: '-' :: ds
  | some (false, ds) => 'e' :: ds
  | none => []

/-- The text of a numeral less its sign. -/
def text (n : Numeral) : List Char := n.whole ++ fractionText n.fraction ++ exponentText n.exponent

/-- The rules for the text of a numeral. -/
structure WellFormed (n : Numeral) : Prop where
  whole : IsWhole n.whole
  fraction : ∀ ds, n.fraction = some ds → IsDigits ds
  exponent : ∀ negative ds, n.exponent = some (negative, ds) → IsDigits ds

end Numeral

/-- Nothing at the front goes on with a number. -/
structure Stops (rest : List UInt8) : Prop where
  digit : NoDigit rest
  point : rest.head? ≠ some 0x2E
  letter : rest.head? ≠ some 0x65 ∧ rest.head? ≠ some 0x45

theorem stops_nil : Stops [] := ⟨nofun, nofun, nofun, nofun⟩

theorem exists_digit {ds : List Char} (h : IsDigits ds) (rest : List UInt8) :
    ∃ b bs, asciiBytes ds ++ rest = b :: bs ∧ isDigitByte b = true := by
  obtain ⟨c, cs, rfl⟩ := List.exists_cons_of_ne_nil h.nonempty
  obtain ⟨hlow, hhigh, -⟩ := toNat_of_isDigit (h.digits c List.mem_cons_self)
  exact ⟨_, _, rfl, isDigitByte_iff.mpr ⟨hlow, hhigh⟩⟩

theorem ne_of_isDigitByte {b c : UInt8} (hb : isDigitByte b = true) (hc : isDigitByte c = false) :
    b ≠ c := by
  rintro rfl
  rw [hb] at hc
  cases hc

theorem not_blank_of_isDigitByte {b : UInt8} (hb : isDigitByte b = true) :
    (b = 0x20 || b = 0x0A || b = 0x0D || b = 0x09 : Bool) = false := by
  have hne := fun c => ne_of_isDigitByte (c := c) hb
  simp [hne 0x20 (by decide), hne 0x0A (by decide), hne 0x0D (by decide), hne 0x09 (by decide)]

theorem scanSign_digits {b : UInt8} (hb : isDigitByte b = true) (bs : List UInt8) :
    scanSign (b :: bs) = (false, b :: bs) := by
  have hplus : b ≠ 0x2B := ne_of_isDigitByte hb (by decide)
  have hminus : b ≠ 0x2D := ne_of_isDigitByte hb (by decide)
  simp [scanSign, hplus, hminus]

theorem scanExponent_text {e : Option (Bool × List Char)}
    (h : ∀ negative ds, e = some (negative, ds) → IsDigits ds) {rest : List UInt8}
    (hr : Stops rest) :
    scanExponent (asciiBytes (Numeral.exponentText e) ++ rest) = some (e, rest) := by
  match e with
  | none =>
    change scanExponent rest = some (none, rest)
    cases rest with
    | nil => rfl
    | cons b rest =>
      have hb : ¬ (b = 0x65 ∨ b = 0x45) := by simpa using hr.letter
      rw [scanExponent, if_neg hb]
  | some (negative, ds) =>
    have hds := h negative ds rfl
    have hempty : ds.isEmpty = false := by simpa using hds.nonempty
    have hspan := spanDigitBytes_append hds.digits hr.digit
    cases negative with
    | true =>
      change scanExponent (0x65 :: 0x2D :: (asciiBytes ds ++ rest)) = _
      simp [scanExponent, scanSign, hspan, hempty]
    | false =>
      change scanExponent (0x65 :: (asciiBytes ds ++ rest)) = _
      obtain ⟨b, bs, hbs, hb⟩ := exists_digit hds rest
      have hsign : scanSign (asciiBytes ds ++ rest) = (false, asciiBytes ds ++ rest) := by
        rw [hbs, scanSign_digits hb]
      simp [scanExponent, hsign, hspan, hempty]

/-- An exponent or what follows the number stops its digits. -/
theorem exponentText_stops (e : Option (Bool × List Char)) {rest : List UInt8} (hr : Stops rest) :
    NoDigit (asciiBytes (Numeral.exponentText e) ++ rest) ∧
      (asciiBytes (Numeral.exponentText e) ++ rest).head? ≠ some 0x2E := by
  match e with
  | none => exact ⟨hr.digit, hr.point⟩
  | some (true, ds) => exact ⟨by rintro b ⟨⟩; decide, by simp [Numeral.exponentText, asciiBytes]⟩
  | some (false, ds) => exact ⟨by rintro b ⟨⟩; decide, by simp [Numeral.exponentText, asciiBytes]⟩

theorem scanFraction_text {f : Option (List Char)}
    (h : ∀ ds, f = some ds → IsDigits ds) {rest : List UInt8} (hd : NoDigit rest)
    (hp : rest.head? ≠ some 0x2E) :
    scanFraction (asciiBytes (Numeral.fractionText f) ++ rest) = some (f, rest) := by
  match f with
  | none =>
    change scanFraction rest = some (none, rest)
    cases rest with
    | nil => rfl
    | cons b rest =>
      have hb : b ≠ 0x2E := by simpa using hp
      simp [scanFraction, hb]
  | some ds =>
    have hds := h ds rfl
    have hempty : ds.isEmpty = false := by simpa using hds.nonempty
    change scanFraction (0x2E :: (asciiBytes ds ++ rest)) = _
    simp [scanFraction, spanDigitBytes_append hds.digits hd, hempty]

theorem scanWhole_text {ds : List Char} (h : IsWhole ds) {rest : List UInt8} (hr : NoDigit rest) :
    scanWhole (asciiBytes ds ++ rest) = some (ds, rest) := by
  rcases h.leading with rfl | hl
  · change scanWhole (0x30 :: rest) = _
    cases rest with
    | nil => rfl
    | cons b rest =>
      have hb : isDigitByte b = false := hr b rfl
      simp [scanWhole, hb]
  · obtain ⟨c, cs, rfl⟩ := List.exists_cons_of_ne_nil h.nonempty
    have hspan := spanDigitBytes_append h.digits hr
    have hzero : UInt8.ofNat c.toNat ≠ 0x30 := by
      intro hz
      have hc := (toNat_of_isDigit (h.digits c List.mem_cons_self)).2.2
      rw [hz] at hc
      exact hl (by rw [← hc]; rfl)
    have hcons : asciiBytes (c :: cs) ++ rest =
        UInt8.ofNat c.toNat :: (asciiBytes cs ++ rest) := rfl
    rw [scanWhole.eq_def]
    split
    · next heq =>
      rw [hcons] at heq
      exact absurd (List.cons.inj heq).1 hzero
    · rw [hspan]
      rfl

theorem fractionText_stops (f : Option (List Char)) {rest : List UInt8} (hr : NoDigit rest) :
    NoDigit (asciiBytes (Numeral.fractionText f) ++ rest) := by
  match f with
  | none => exact hr
  | some ds =>
    rintro b ⟨⟩
    decide

/-- **A numeral is read back from its text**, whatever may follow a number. -/
theorem scanNumber_text {n : Numeral} (h : n.WellFormed) {rest : List UInt8} (hr : Stops rest) :
    scanNumber n.negative (asciiBytes n.text ++ rest) = some (n, rest) := by
  obtain ⟨hdigit, hpoint⟩ := exponentText_stops n.exponent hr
  have hsplit : asciiBytes n.text ++ rest = asciiBytes n.whole ++
      (asciiBytes (Numeral.fractionText n.fraction) ++
        (asciiBytes (Numeral.exponentText n.exponent) ++ rest)) := by
    simp only [Numeral.text, asciiBytes, List.map_append, List.append_assoc]
  have hwhole := scanWhole_text h.whole (fractionText_stops n.fraction hdigit)
  have hfraction := scanFraction_text h.fraction hdigit hpoint
  have hexponent := scanExponent_text h.exponent hr
  simp only [scanNumber, hsplit, hwhole, hfraction, hexponent, Option.bind_eq_bind,
    Option.bind_some]
  rfl

/-! ## The texts of numbers -/

/-- The characters are the text of a numeral with that sign. -/
def Writes (negative : Bool) (cs : List Char) : Prop :=
  ∃ n : Numeral, n.WellFormed ∧ n.negative = negative ∧ n.text = cs

theorem isDigits_toDigits (n : Nat) : IsDigits (Nat.toDigits 10 n) :=
  ⟨fun _ => Text.isDigit_of_mem_toDigits, Nat.toDigits_ne_nil⟩

theorem head_toDigits_ne_zero {n : Nat} (hn : 0 < n) : (Nat.toDigits 10 n).head? ≠ some '0' := by
  induction n using Nat.strong_induction_on with
  | _ n ih =>
    by_cases hlt : n < 10
    · rw [Nat.toDigits_of_lt_base hlt]
      interval_cases n <;> decide
    · have hne : Nat.toDigits 10 (n / 10) ≠ [] := Nat.toDigits_ne_nil
      rw [Nat.toDigits_of_base_le (by decide) (by omega), List.head?_append_of_ne_nil _ hne]
      exact ih (n / 10) (by omega) (by omega)

theorem isWhole_toDigits (n : Nat) : IsWhole (Nat.toDigits 10 n) := by
  refine ⟨isDigits_toDigits n, ?_⟩
  rcases Nat.eq_zero_or_pos n with rfl | hn
  · exact .inl rfl
  · exact .inr (head_toDigits_ne_zero hn)

section Digits

variable {ds : List Char}

theorem AllDigits.append {ds' : List Char} (h : AllDigits ds) (h' : AllDigits ds') :
    AllDigits (ds ++ ds') := fun c hc =>
  (List.mem_append.mp hc).elim (h c) (h' c)

theorem allDigits_zeros (k : Nat) : AllDigits (List.replicate k '0') := by
  intro c hc
  rw [List.eq_of_mem_replicate hc]
  rfl

theorem IsDigits.drop (h : IsDigits ds) {k : Nat} (hk : k < ds.length) : IsDigits (ds.drop k) := by
  refine ⟨fun c hc => h.digits c (List.mem_of_mem_drop hc), ?_⟩
  rw [ne_eq, List.drop_eq_nil_iff]
  omega

theorem IsDigits.take (h : IsDigits ds) (hl : ds.head? ≠ some '0') {k : Nat} (hk : k ≠ 0) :
    IsWhole (ds.take k) := by
  refine ⟨⟨fun c hc => h.digits c (List.mem_of_mem_take hc), ?_⟩, .inr ?_⟩
  · rw [ne_eq, List.take_eq_nil_iff]
    exact not_or.mpr ⟨hk, h.nonempty⟩
  · rwa [List.head?_take, if_neg hk]

end Digits

theorem wellFormed_whole {ds : List Char} {negative : Bool} (h : IsWhole ds) :
    Numeral.WellFormed ⟨negative, ds, none, none⟩ :=
  ⟨h, nofun, nofun⟩

theorem text_whole (negative : Bool) (ds : List Char) :
    Numeral.text ⟨negative, ds, none, none⟩ = ds := by
  simp [Numeral.text, Numeral.fractionText, Numeral.exponentText]

theorem writes_fraction {ds fs : List Char} (negative : Bool) (hd : IsWhole ds) (hf : IsDigits fs) :
    Writes negative (ds ++ '.' :: fs) := by
  refine ⟨⟨negative, ds, some fs, none⟩, ⟨hd, ?_, nofun⟩, rfl, ?_⟩
  · rintro _ ⟨⟩
    exact hf
  · simp [Numeral.text, Numeral.fractionText, Numeral.exponentText]

theorem writes_exponent {ds : List Char} {f : Option (List Char)} (negative : Bool)
    (hd : IsWhole ds) (hf : ∀ fs, f = some fs → IsDigits fs) (e : Int) :
    Writes negative (ds ++ Numeral.fractionText f ++ 'e' :: (toString e).toList) := by
  cases e with
  | ofNat m =>
    refine ⟨⟨negative, ds, f, some (false, Nat.toDigits 10 m)⟩, ⟨hd, hf, ?_⟩, rfl, ?_⟩
    · rintro _ _ ⟨⟩
      exact isDigits_toDigits m
    · have hm : (toString (Int.ofNat m)).toList = Nat.toDigits 10 m := Text.toList_toString m
      rw [hm]
      rfl
  | negSucc m =>
    refine ⟨⟨negative, ds, f, some (true, Nat.toDigits 10 (m + 1))⟩, ⟨hd, hf, ?_⟩, rfl, ?_⟩
    · rintro _ _ ⟨⟩
      exact isDigits_toDigits (m + 1)
    · rw [Text.toList_toString_negSucc]
      rfl

theorem writes_place {d : Nat} (h : 0 < d) (negative : Bool) (e : Int) :
    Writes negative (Binary64.place (toString d) e).toList := by
  have hds := isDigits_toDigits d
  have hlead := head_toDigits_ne_zero h
  have hlength : (toString d).length = (Nat.toDigits 10 d).length := by
    rw [← String.length_toList, Text.toList_toString]
  unfold Binary64.place Binary64.zeros
  dsimp only
  rw [Text.toList_toString, hlength]
  set ds := Nat.toDigits 10 d
  split_ifs with h₁ h₂ h₃ h₄
  · -- All digits stand before the point.
    have hwhole : IsWhole (ds ++ List.replicate e.toNat '0') := by
      refine ⟨⟨hds.digits.append (allDigits_zeros _), by simp [hds.nonempty]⟩, .inr ?_⟩
      rwa [List.head?_append_of_ne_nil _ hds.nonempty]
    have hw := writes_fraction negative hwhole (isWhole_toDigits 0).toIsDigits
    simpa [Text.toList_toString] using hw
  · -- The point stands among the digits.
    have hbefore : IsWhole (ds.take ((ds.length : Int) + e).toNat) := hds.take hlead (by omega)
    have hbehind : IsDigits (ds.drop ((ds.length : Int) + e).toNat) := hds.drop (by omega)
    have hw := writes_fraction negative hbefore hbehind
    simpa using hw
  · -- The point stands before the digits.
    have hfraction : IsDigits (List.replicate (-((ds.length : Int) + e)).toNat '0' ++ ds) :=
      ⟨(allDigits_zeros _).append hds.digits, by simp [hds.nonempty]⟩
    have hw := writes_fraction negative (isWhole_toDigits 0) hfraction
    simpa [Text.toList_toString] using hw
  all_goals
    -- An exponent stands behind one digit and the others.
    have hw := fun f hf => writes_exponent (f := f) negative (hds.take hlead Nat.one_ne_zero) hf
      ((ds.length : Int) + e - 1)
  · simpa [Numeral.fractionText] using hw none nofun
  · have hmore : 1 < ds.length := by
      have hrest : ds.drop 1 ≠ [] := by simpa using h₄
      rw [ne_eq, List.drop_eq_nil_iff] at hrest
      omega
    have hrest : ∀ fs, some (ds.drop 1) = some fs → IsDigits fs := by
      rintro _ ⟨⟩
      exact hds.drop hmore
    simpa [Numeral.fractionText] using hw (some (ds.drop 1)) hrest

/-- The characters are a numeral behind its sign. -/
def WritesSigned (cs : List Char) : Prop :=
  ∃ negative body, Writes negative body ∧ cs = (if negative then ['-'] else []) ++ body

theorem writes_render (x : Binary64) : WritesSigned x.render.toList := by
  have hsign : (if x.isNegative then "-" else "").toList =
      if x.isNegative then ['-'] else [] := by split_ifs <;> rfl
  have hwhole : IsWhole ['0'] := isWhole_toDigits 0
  unfold Binary64.render
  dsimp only
  by_cases hzero : x.word = 0
  · rw [if_pos hzero, String.toList_append, hsign]
    exact ⟨_, _, writes_fraction x.isNegative hwhole hwhole.toIsDigits, rfl⟩
  · rw [if_neg hzero, String.toList_append, hsign]
    exact ⟨_, _, writes_place (Binary64.shortest_pos hzero) x.isNegative _, rfl⟩

theorem writes_toString (n : Int) : WritesSigned (toString n).toList := by
  have hwhole : ∀ m negative, Writes negative (Nat.toDigits 10 m) := fun m negative =>
    ⟨_, wellFormed_whole (isWhole_toDigits m), rfl, text_whole negative _⟩
  cases n with
  | ofNat m =>
    refine ⟨false, _, hwhole m false, ?_⟩
    exact Text.toList_toString m
  | negSucc m =>
    refine ⟨true, _, hwhole (m + 1) true, ?_⟩
    exact Text.toList_toString_negSucc m

theorem ascii_text {n : Numeral} (h : n.WellFormed) : ∀ c ∈ n.text, c.toNat < 0x80 := by
  have hdigit : ∀ {ds}, AllDigits ds → ∀ c ∈ ds, c.toNat < 0x80 := by
    intro ds hd c hc
    have hle : c.toNat ≤ 57 := (Char.isDigit_iff_toNat.mp (hd c hc)).2
    omega
  intro c hc
  rw [Numeral.text, List.mem_append, List.mem_append] at hc
  rcases hc with (hc | hc) | hc
  · exact hdigit h.whole.digits c hc
  · cases hf : n.fraction with
    | none => simp [hf, Numeral.fractionText] at hc
    | some ds =>
      rw [hf] at hc
      rcases List.mem_cons.mp hc with rfl | hc
      · decide
      · exact hdigit (h.fraction ds hf).digits c hc
  · match he : n.exponent with
    | none => simp [he, Numeral.exponentText] at hc
    | some (negative, ds) =>
      have hds := hdigit (h.exponent negative ds he).digits
      rw [he] at hc
      cases negative with
      | true =>
        rcases List.mem_cons.mp hc with rfl | hc
        · decide
        · rcases List.mem_cons.mp hc with rfl | hc
          · decide
          · exact hds c hc
      | false =>
        rcases List.mem_cons.mp hc with rfl | hc
        · decide
        · exact hds c hc

/-- The text of a numeral behind its sign. -/
def signedBytes (n : Numeral) : List UInt8 :=
  (if n.negative then [0x2D] else []) ++ asciiBytes n.text

/-- **The text of every number is that of a numeral.** -/
theorem exists_numeral (v : JsonNumber) :
    ∃ n : Numeral, n.WellFormed ∧ Text.bytes (renderNumber v) = signedBytes n := by
  have hsigned : WritesSigned (renderNumber v).toList := by
    cases v with
    | int n => exact writes_toString n
    | real x => exact writes_render x
  obtain ⟨_, _, ⟨n, hn, rfl, rfl⟩, he⟩ := hsigned
  refine ⟨n, hn, ?_⟩
  have hascii : ∀ c ∈ n.text, c.toNat < 0x80 := ascii_text hn
  rw [Text.bytes_eq_flatMap, he, List.flatMap_append, flatMap_utf8_of_ascii hascii, signedBytes]
  split_ifs <;> rfl

/-! ## Their forms -/

theorem scan_digit {b : UInt8} (hb : isDigitByte b = true) (fuel room : Nat) (bs : List UInt8) :
    Form.scan (fuel + 1) room (b :: bs) =
      (scanNumber false (b :: bs)).map fun r => (Form.ofNumeral r.1, r.2) := by
  rw [Form.scan, Form.skipBlanks_cons (not_blank_of_isDigitByte hb)]
  split
  case h_8 => rfl
  all_goals
    next heq =>
    exact absurd (List.cons.inj heq).1 (ne_of_isDigitByte hb (by decide))

theorem scan_minus (fuel room : Nat) (bs : List UInt8) :
    Form.scan (fuel + 1) room (0x2D :: bs) =
      (scanNumber true bs).map fun r => (Form.ofNumeral r.1, r.2) := by
  rw [Form.scan, Form.skipBlanks_cons (by decide)]
  rfl

theorem exists_digit_text {n : Numeral} (hn : n.WellFormed) (rest : List UInt8) :
    ∃ b bs, asciiBytes n.text ++ rest = b :: bs ∧ isDigitByte b = true := by
  have hwhole := exists_digit hn.whole.toIsDigits
    (asciiBytes (Numeral.fractionText n.fraction ++ Numeral.exponentText n.exponent) ++ rest)
  simpa [Numeral.text, asciiBytes] using hwhole

theorem scan_signedBytes {n : Numeral} (hn : n.WellFormed) {rest : List UInt8} (hr : Stops rest)
    (fuel room : Nat) :
    Form.scan (fuel + 1) room (signedBytes n ++ rest) = some (Form.ofNumeral n, rest) := by
  have htext := scanNumber_text hn hr
  unfold signedBytes
  cases hsign : n.negative with
  | true =>
    rw [hsign] at htext
    change Form.scan (fuel + 1) room (0x2D :: (asciiBytes n.text ++ rest)) = _
    rw [scan_minus, htext]
    rfl
  | false =>
    rw [hsign] at htext
    change Form.scan (fuel + 1) room (asciiBytes n.text ++ rest) = _
    obtain ⟨b, bs, hcons, hb⟩ := exists_digit_text hn rest
    rw [hcons] at htext ⊢
    rw [scan_digit hb, htext]
    rfl

theorem exists_first_number (v : JsonNumber) :
    ∃ b bs, Text.bytes (renderNumber v) = b :: bs ∧ (b = 0x2D ∨ isDigitByte b = true) := by
  obtain ⟨n, hn, hbytes⟩ := exists_numeral v
  rw [hbytes, signedBytes]
  cases n.negative with
  | true => exact ⟨0x2D, _, rfl, .inl rfl⟩
  | false =>
    obtain ⟨b, bs, hcons, hb⟩ := exists_digit_text hn []
    rw [List.append_nil] at hcons
    exact ⟨b, bs, hcons, .inr hb⟩

/-- The form as which the text of a number is read. -/
def numberForm (v : JsonNumber) : Form :=
  ((Form.scan 1 0 (Text.bytes (renderNumber v))).map Prod.fst).getD .unreadable

theorem numberForm_eq {v : JsonNumber} {n : Numeral} (hn : n.WellFormed)
    (hbytes : Text.bytes (renderNumber v) = signedBytes n) : numberForm v = Form.ofNumeral n := by
  have hscan := scan_signedBytes hn stops_nil 0 0
  rw [List.append_nil] at hscan
  rw [numberForm, hbytes, hscan]
  rfl

/-- **A number is read to the end of its text.** -/
theorem scan_number (v : JsonNumber) {rest : List UInt8} (hr : Stops rest) (fuel room : Nat) :
    Form.scan (fuel + 1) room (Text.bytes (renderNumber v) ++ rest) = some (numberForm v, rest) := by
  obtain ⟨n, hn, hbytes⟩ := exists_numeral v
  rw [numberForm_eq hn hbytes, hbytes]
  exact scan_signedBytes hn hr fuel room

/-- **A word is read back as it is.** -/
theorem numberForm_word {k : Nat} (h : k < Text.wordBound) :
    numberForm (.int k) = .num (.int k) := by
  set n : Numeral := ⟨false, Nat.toDigits 10 k, none, none⟩
  have hn : n.WellFormed := wellFormed_whole (isWhole_toDigits k)
  have hbytes : Text.bytes (renderNumber (.int k)) = signedBytes n := by
    have htext : (renderNumber (.int k)).toList = n.text := by
      rw [text_whole]
      exact Text.toList_toString k
    rw [Text.bytes_eq_flatMap, htext, flatMap_utf8_of_ascii (ascii_text hn)]
    rfl
  have hvalue : Binary64.digitsValue n.whole = k := by
    rw [Binary64.digitsValue, Text.digitsFrom?_of_isDigit (isDigits_toDigits k).digits,
      Nat.ofDigitChars_ten_toDigits]
    rfl
  have hnumber : n.value? = some (.int k) := by
    unfold Numeral.value?
    rw [hvalue]
    exact if_pos h
  rw [numberForm_eq hn hbytes, Form.ofNumeral, hnumber]

end DocSearch.Json
