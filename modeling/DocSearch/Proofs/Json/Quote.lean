import Mathlib
import DocSearch.Json.Parser
import DocSearch.Json.Printer
import DocSearch.Proofs.Text.Utf8
/-!
# Strings read back

* `Json.Spells`: some bytes inside a string denote others. `Spells.append`: so do rows of them.
* `spells_plain`, `spells_letter`, `spells_unit`: the ways in which a character is written.
* **`scanString_escapedBytes`**, `Form.scan_quote`: a text is read back from its JSON string.
-/

namespace DocSearch.Json

/-- Inside a string the bytes `text` denote the bytes `bs`, whatever comes behind them. -/
def Spells (text bs : List UInt8) : Prop :=
  ∃ ps, (∀ rest more tail, scanString rest = some (more, tail) →
      scanString (text ++ rest) = some (ps ++ more, tail)) ∧
    ∀ more bs', assemble more = some bs' → assemble (ps ++ more) = some (bs ++ bs')

section Spells

variable {text text' bs bs' : List UInt8}

theorem spells_nil : Spells [] [] :=
  ⟨[], fun _ _ _ h => h, fun _ _ h => h⟩

theorem Spells.append (h : Spells text bs) (h' : Spells text' bs') :
    Spells (text ++ text') (bs ++ bs') := by
  obtain ⟨ps, hs, ha⟩ := h
  obtain ⟨ps', hs', ha'⟩ := h'
  refine ⟨ps ++ ps', fun rest more tail hr => ?_, fun more b hm => ?_⟩
  · rw [List.append_assoc, List.append_assoc]
    exact hs _ _ _ (hs' _ _ _ hr)
  · rw [List.append_assoc, List.append_assoc]
    exact ha _ _ (ha' _ _ hm)

theorem spells_flatMap {α : Type} {f g : α → List UInt8} (l : List α)
    (h : ∀ a ∈ l, Spells (f a) (g a)) : Spells (l.flatMap f) (l.flatMap g) := by
  induction l with
  | nil => exact spells_nil
  | cons a l ih =>
    rw [List.flatMap_cons, List.flatMap_cons]
    exact (h a List.mem_cons_self).append (ih fun b hb => h b (List.mem_cons_of_mem _ hb))

/-! ## The ways to write a character -/

theorem assemble_byte (b : UInt8) (ps : List Piece) :
    assemble (.byte b :: ps) = (assemble ps).map (b :: ·) := by
  rw [assemble]

/-- A unit that is no half of a pair denotes its code point. -/
theorem assemble_unit {n : Nat} (h : n < 0xD800) (ps : List Piece) :
    assemble (.unit n :: ps) = (assemble ps).map (encodeCodePoint n ++ ·) := by
  have h₁ : ¬ (0xD800 ≤ n ∧ n < 0xDC00) := by omega
  have h₂ : ¬ (0xDC00 ≤ n ∧ n < 0xE000) := by omega
  have h₃ : ¬ (0xD800 ≤ n ∧ n < 0xE000) := by omega
  cases ps with
  | nil => simp [assemble, h₃]
  | cons p ps =>
    cases p with
    | byte b => simp [assemble, h₃]
    | unit l => simp only [assemble, if_neg h₁, if_neg h₂]

theorem scanString_plain {b : UInt8} (h : 0x20 ≤ b.toNat) (hq : b.toNat ≠ 0x22)
    (hb : b.toNat ≠ 0x5C) (rest : List UInt8) :
    scanString (b :: rest) = (scanString rest).map fun r => (.byte b :: r.1, r.2) := by
  have hc : ¬ (b < 0x20 ∨ b = 0x5C) := by
    rintro (h' | rfl)
    · exact absurd (UInt8.lt_iff_toNat_lt.mp h') (Nat.not_lt.mpr h)
    · exact hb rfl
  rw [scanString]
  · rw [if_neg hc]
  · rintro rfl
    exact hq rfl
  · rintro _ _ _ _ _ rfl
    exact fun _ => hb rfl
  · rintro _ _ rfl
    exact fun _ => hb rfl

theorem scanString_letter {x b : UInt8} (h : letterEscape? x = some b) (hu : x ≠ 0x75)
    (rest : List UInt8) :
    scanString (0x5C :: x :: rest) = (scanString rest).map fun r => (.byte b :: r.1, r.2) := by
  rw [scanString, h]
  · cases scanString rest <;> rfl
  · rintro _ _ _ _ _ rfl
    exact fun _ => hu rfl

theorem spells_plain {b : UInt8} (h : 0x20 ≤ b.toNat) (hq : b.toNat ≠ 0x22) (hb : b.toNat ≠ 0x5C) :
    Spells [b] [b] := by
  refine ⟨[.byte b], fun rest more tail hr => ?_, fun more bs hm => ?_⟩
  · rw [List.singleton_append, scanString_plain h hq hb, hr]
    rfl
  · rw [List.singleton_append, assemble_byte, hm]
    rfl

theorem spells_letter {x b : UInt8} (h : letterEscape? x = some b) (hu : x ≠ 0x75) :
    Spells [0x5C, x] [b] := by
  refine ⟨[.byte b], fun rest more tail hr => ?_, fun more bs hm => ?_⟩
  · rw [List.cons_append, List.singleton_append, scanString_letter h hu, hr]
    rfl
  · rw [List.singleton_append, assemble_byte, hm]
    rfl

theorem spells_unit {a b c d : UInt8} {n : Nat} (h : hexUnit? a b c d = some n) (hn : n < 0xD800) :
    Spells [0x5C, 0x75, a, b, c, d] (encodeCodePoint n) := by
  refine ⟨[.unit n], fun rest more tail hr => ?_, fun more bs hm => ?_⟩
  · simp [scanString, h, hr]
  · rw [List.singleton_append, assemble_unit hn, hm]
    rfl

end Spells

/-! ## Whole texts -/

/-- The bytes of a hexadecimal digit. -/
def hexByte (n : Nat) : UInt8 := UInt8.ofNat (hexDigit n).toNat

theorem hexUnit?_control :
    ∀ n < 0x20, hexUnit? 0x30 0x30 (hexByte (n / 16)) (hexByte (n % 16)) = some n := by
  decide

theorem utf8_control : ∀ n < 0x20,
    ['\\', 'u', '0', '0', hexDigit (n / 16), hexDigit (n % 16)].flatMap String.utf8EncodeChar =
      [0x5C, 0x75, 0x30, 0x30, hexByte (n / 16), hexByte (n % 16)] := by
  decide

theorem spells_char {c : Char} (h : 0x20 ≤ c.toNat) (hq : c ≠ '"') (hb : c ≠ '\\') :
    Spells (String.utf8EncodeChar c) (String.utf8EncodeChar c) := by
  rcases Text.utf8EncodeChar_cases c with ⟨hc, e⟩ | ⟨-, hc⟩
  · have ht : (UInt8.ofNat c.toNat).toNat = c.toNat :=
      UInt8.toNat_ofNat_of_lt' (Nat.lt_trans hc (by decide))
    rw [e]
    refine spells_plain (by omega) ?_ ?_
    · rw [ht]
      exact fun h => hq (Char.toNat_inj.mp h)
    · rw [ht]
      exact fun h => hb (Char.toNat_inj.mp h)
  · have hs := spells_flatMap (f := fun b => [b]) (g := fun b => [b]) (String.utf8EncodeChar c)
      fun b hm => spells_plain (by have := hc b hm; omega) (by have := hc b hm; omega)
        (by have := hc b hm; omega)
    rwa [List.flatMap_singleton'] at hs

/-- **Every character is written so that it is read back.** -/
theorem spells_escapeChar (c : Char) :
    Spells ((escapeChar c).flatMap String.utf8EncodeChar) (String.utf8EncodeChar c) := by
  unfold escapeChar
  split_ifs with h₁ h₂ h₃ h₄ h₅ h₆ h₇ h₈
  · subst h₁
    exact spells_letter (x := 0x22) rfl (by decide)
  · subst h₂
    exact spells_letter (x := 0x5C) rfl (by decide)
  · subst h₃
    exact spells_letter (x := 0x62) rfl (by decide)
  · subst h₄
    exact spells_letter (x := 0x66) rfl (by decide)
  · subst h₅
    exact spells_letter (x := 0x6E) rfl (by decide)
  · subst h₆
    exact spells_letter (x := 0x72) rfl (by decide)
  · subst h₇
    exact spells_letter (x := 0x74) rfl (by decide)
  · have hs := spells_unit (hexUnit?_control c.toNat h₈) (by omega)
    rwa [← utf8_control c.toNat h₈, encodeCodePoint, Char.ofNat_toNat] at hs
  · rw [List.flatMap_singleton]
    exact spells_char (Nat.le_of_not_lt h₈) h₁ h₂

/-- The bytes of a text as they stand inside a JSON string. -/
def escapedBytes (s : String) : List UInt8 := (escape s.toList).flatMap String.utf8EncodeChar

theorem bytes_quote (s : String) : Text.bytes (quote s) = 0x22 :: escapedBytes s ++ [0x22] := by
  rw [quote, Text.bytes_ofList, List.flatMap_append, List.flatMap_cons]
  rfl

theorem spells_escapedBytes (s : String) : Spells (escapedBytes s) (Text.bytes s) := by
  rw [escapedBytes, escape, List.flatMap_assoc, Text.bytes_eq_flatMap]
  exact spells_flatMap s.toList fun c _ => spells_escapeChar c

/-- **A text is read back from its JSON string**, whatever follows the closing quote. -/
theorem scanString_escapedBytes (s : String) (rest : List UInt8) :
    ∃ ps, scanString (escapedBytes s ++ 0x22 :: rest) = some (ps, rest) ∧
      assembleText? ps = some s := by
  obtain ⟨ps, hs, ha⟩ := spells_escapedBytes s
  have hq : scanString (0x22 :: rest) = some ([], rest) := by rw [scanString]
  have hs := hs _ _ _ hq
  have ha := ha [] [] (by rw [assemble])
  rw [List.append_nil] at hs ha
  rw [List.append_nil] at ha
  refine ⟨ps, hs, ?_⟩
  rw [assembleText?, ha]
  exact Text.ofBytes?_bytes s

end DocSearch.Json

namespace DocSearch.Form

open Json

theorem skipBlanks_cons {b : UInt8}
    (h : (b = 0x20 || b = 0x0A || b = 0x0D || b = 0x09 : Bool) = false) (bs : List UInt8) :
    skipBlanks (b :: bs) = b :: bs :=
  List.dropWhile_cons_of_neg (by simpa using h)

theorem scan_quote (fuel room : Nat) (s : String) (rest : List UInt8) :
    scan (fuel + 1) room (Text.bytes (quote s) ++ rest) = some (.str s, rest) := by
  obtain ⟨ps, hs, ha⟩ := scanString_escapedBytes s rest
  rw [bytes_quote, List.append_assoc, List.singleton_append, List.cons_append, scan,
    skipBlanks_cons (by decide)]
  change (scanString (escapedBytes s ++ 0x22 :: rest)).map (fun r => (ofPieces r.1, r.2)) = _
  rw [hs, Option.map_some, ofPieces, ha]

theorem scan_brace (fuel room : Nat) (bs : List UInt8) :
    scan (fuel + 1) room (0x7B :: 0x22 :: bs) =
      (scanFields fuel (room - 1) (0x22 :: bs)).map fun r => (within room (ofFields r.1), r.2) := by
  have h : skipBlanks (0x22 :: bs) = 0x22 :: bs := skipBlanks_cons (by decide) bs
  rw [scan, skipBlanks_cons (by decide)]
  simp only [h]
  rfl

end DocSearch.Form
