import Mathlib
import DocSearch.Page
import DocSearch.Proofs.Text.Numeral
/-!
# Which pages are given

* `Page.offset?_eq`: the arithmetic of words decides as that of all natural numbers does: a product or a
  sum that overflows lies outside the window, and none comes back into it.
* `Page.Asked`: the number that a text stands for, or the default; `asked?`, what is read of it.
* `Page.parse_eq`, `Page.parse_eq_iff`: the checks in their order, and what they decide.
* **`Page.parse_iff`**: which page is given, or which of the two errors.
-/

namespace DocSearch.Page

/-! ## The window -/

theorem offset?_eq (number size : Nat) :
    offset? number size =
      if (number + 1) * size ≤ resultWindow then some (number * size) else none := by
  have hwindow : resultWindow < Text.wordBound := by decide
  have hstop : (number + 1) * size = number * size + size := Nat.succ_mul number size
  unfold offset? Text.inWord?
  by_cases hproduct : number * size < Text.wordBound
  · by_cases hsum : number * size + size < Text.wordBound
    · simp [hproduct, hsum, hstop]
    · have hout : ¬ (number + 1) * size ≤ resultWindow := by omega
      simp [hproduct, hsum, hout]
  · have hout : ¬ (number + 1) * size ≤ resultWindow := by omega
    simp [hproduct, hout]

/-! ## The texts -/

/-- The number is asked for: the text without the blanks at its ends is a numeral of it, and a word of 64
bits holds it. Without a text it is the default. -/
def Asked (text : Option String) (default n : Nat) : Prop :=
  match text with
  | none => n = default
  | some s => Text.IsNumeral (Text.trim s) n ∧ n < 2 ^ 64

/-- The number that is read, or the default. -/
def asked? (text : Option String) (default : Nat) : Option Nat :=
  match text with
  | none => some default
  | some s => Text.natural? (Text.trim s)

theorem asked?_eq_some_iff {text : Option String} {default n : Nat} :
    asked? text default = some n ↔ Asked text default n := by
  cases text with
  | none => simp only [asked?, Asked, Option.some.injEq, eq_comm]
  | some s => exact Text.natural?_eq_some_iff

theorem asked_toString {n : Nat} (default : Nat) (h : n < Text.wordBound) :
    Asked (some (toString n)) default n := by
  have hread : Text.natural? (Text.trim (toString n)) = some n := by
    rw [Text.trim_toString, Text.natural?_toString h]
  exact asked?_eq_some_iff.mp hread

/-- Pages have sizes from one to two hundred. -/
def Fits (size : Nat) : Prop := 1 ≤ size ∧ size ≤ 200

instance (size : Nat) : Decidable (Fits size) := inferInstanceAs (Decidable (_ ∧ _))

/-! ## The page -/

section Parse

variable {number size : Option String}

theorem parse_eq (number size : Option String) :
    parse number size =
      match asked? number 0, asked? size 10 with
      | none, _ => .error .invalidPage
      | some _, none => .error .invalidSize
      | some n, some m =>
        if Fits m then
          if (n + 1) * m ≤ resultWindow then .ok ⟨n, m, n * m⟩ else .error .invalidPage
        else .error .invalidSize := by
  have hread : parse number size = (do
      let n ← (asked? number 0).elim (throw .invalidPage) pure
      let m ← (asked? size 10).elim (throw .invalidSize) pure
      if m < 1 ∨ maxSize < m then throw .invalidSize
      let offset ← (offset? n m).elim (throw .invalidPage) pure
      return ⟨n, m, offset⟩) := by
    cases number <;> cases size <;> rfl
  rw [hread]
  cases asked? number 0 with
  | none => rfl
  | some n =>
    cases asked? size 10 with
    | none => rfl
    | some m =>
      have hfits : (m < 1 ∨ maxSize < m) ↔ ¬ Fits m := by
        unfold Fits maxSize
        omega
      simp only [Option.elim_some, pure_bind, hfits, offset?_eq]
      by_cases hm : Fits m
      · rw [if_neg (not_not_intro hm), if_pos hm]
        by_cases hw : (n + 1) * m ≤ resultWindow
        · rw [if_pos hw, if_pos hw]
          rfl
        · rw [if_neg hw, if_neg hw]
          rfl
      · rw [if_pos hm, if_neg hm]
        rfl

/-- What the checks decide. The answer of `parse` is one of four, each with its own condition. -/
theorem parse_eq_iff {answer : Except ValidationError Page} :
    parse number size = answer ↔
      ((∀ n, ¬ Asked number 0 n) ∧ answer = .error .invalidPage) ∨
      ∃ n, Asked number 0 n ∧
        (((∀ m, Asked size 10 m → ¬ Fits m) ∧ answer = .error .invalidSize) ∨
          ∃ m, Asked size 10 m ∧ Fits m ∧
            ((resultWindow < (n + 1) * m ∧ answer = .error .invalidPage) ∨
              ((n + 1) * m ≤ resultWindow ∧ answer = .ok ⟨n, m, n * m⟩))) := by
  simp only [← asked?_eq_some_iff]
  rw [parse_eq]
  cases asked? number 0 with
  | none => simp [eq_comm]
  | some n =>
    cases asked? size 10 with
    | none => simp [eq_comm]
    | some m =>
      dsimp only
      split_ifs <;> grind

theorem parse_eq_ok_iff {p : Page} :
    parse number size = .ok p ↔
      Asked number 0 p.number ∧ Asked size 10 p.size ∧ Fits p.size ∧
        (p.number + 1) * p.size ≤ resultWindow ∧ p.offset = p.number * p.size := by
  obtain ⟨n, m, offset⟩ := p
  rw [parse_eq_iff]
  grind

theorem parse_eq_invalidSize_iff :
    parse number size = .error .invalidSize ↔
      (∃ n, Asked number 0 n) ∧ ∀ m, Asked size 10 m → ¬ Fits m := by
  rw [parse_eq_iff]
  simp

theorem parse_eq_invalidPage_iff :
    parse number size = .error .invalidPage ↔
      (∀ n, ¬ Asked number 0 n) ∨
        ∃ n m, Asked number 0 n ∧ Asked size 10 m ∧ Fits m ∧ resultWindow < (n + 1) * m := by
  rw [parse_eq_iff]
  simp

theorem eq_of_parse_eq_error {e : ValidationError} (h : parse number size = .error e) :
    e = .invalidPage ∨ e = .invalidSize := by
  rw [parse_eq_iff] at h
  grind

theorem depth_le_of_parse_eq_ok {p : Page} (h : parse number size = .ok p) :
    p.depth ≤ resultWindow := by
  obtain ⟨-, -, -, hwindow, hoffset⟩ := parse_eq_ok_iff.mp h
  calc p.depth = p.number * p.size + p.size := by rw [depth, hoffset]
    _ = (p.number + 1) * p.size := (Nat.succ_mul ..).symm
    _ ≤ resultWindow := hwindow

end Parse

/-- **A page is given exactly when it is asked for and ends within the first ten thousand hits.** Else an
unreadable number is told first, then an unreadable or unsuitable size, and last a page that ends behind
those hits, however large its number is. -/
theorem parse_iff (number size : Option String) :
    (∀ p, parse number size = .ok p ↔
      Asked number 0 p.number ∧ Asked size 10 p.size ∧ 1 ≤ p.size ∧ p.size ≤ 200 ∧
        (p.number + 1) * p.size ≤ 10000 ∧ p.offset = p.number * p.size) ∧
    (∀ p, parse number size = .ok p → p.depth ≤ 10000) ∧
    (parse number size = .error .invalidSize ↔
      (∃ n, Asked number 0 n) ∧ ∀ m, Asked size 10 m → ¬ (1 ≤ m ∧ m ≤ 200)) ∧
    (parse number size = .error .invalidPage ↔
      (∀ n, ¬ Asked number 0 n) ∨
        ∃ n m, Asked number 0 n ∧ Asked size 10 m ∧ (1 ≤ m ∧ m ≤ 200) ∧ 10000 < (n + 1) * m) ∧
    ∀ e, parse number size = .error e → e = .invalidPage ∨ e = .invalidSize := by
  refine ⟨fun p => ?_, fun p => depth_le_of_parse_eq_ok, parse_eq_invalidSize_iff,
    parse_eq_invalidPage_iff, fun e => eq_of_parse_eq_error⟩
  rw [parse_eq_ok_iff, Fits, and_assoc]
  rfl

/-- The product of a number and a size that comes back to zero, were it cut to a word. -/
example : parse (some "9223372036854775808") (some "2") = .error .invalidPage := by rfl

end DocSearch.Page
