/-!
# Decimal numerals

* `Text.digits?` — the value of a non-empty row of decimal digits.
* `Text.natural?` — a row of digits with at most one leading plus, of a value below `2 ^ 64`.
* `Text.integer?` — a row of digits with at most one leading sign, of a value that a signed word of
  64 bits holds.
* `Text.inWord?` — a result of arithmetic, unless it overflows an unsigned word.
-/

namespace DocSearch.Text

/-- The value of a decimal digit. -/
def digit? (c : Char) : Option Nat :=
  if '0' ≤ c ∧ c ≤ '9' then some (c.toNat - '0'.toNat) else none

/-- Reads further digits behind the value `acc`. -/
def digitsFrom? (acc : Nat) : List Char → Option Nat
  | [] => some acc
  | c :: cs => (digit? c).bind fun d => digitsFrom? (acc * 10 + d) cs

/-- The value of a non-empty row of digits. -/
def digits? : List Char → Option Nat
  | [] => none
  | cs => digitsFrom? 0 cs

/-- The least number that no unsigned word of 64 bits holds. -/
def wordBound : Nat := 0x10000000000000000

/-- The least number that no signed word of 64 bits holds. -/
def signedBound : Nat := 0x8000000000000000

/-- A sum or a product, if an unsigned word of 64 bits holds it. -/
def inWord? (n : Nat) : Option Nat := if n < wordBound then some n else none

/-- A numeral for an unsigned word of 64 bits: `7`, `+7`, `007`. -/
def natural? (s : String) : Option Nat :=
  let ds := match s.toList with
    | '+' :: cs => cs
    | cs => cs
  (digits? ds).filter (· < wordBound)

/-- A numeral for a signed word of 64 bits: `7`, `+7`, `-7`. -/
def integer? (s : String) : Option Int :=
  match s.toList with
  | '-' :: cs => ((digits? cs).filter (· ≤ signedBound)).map fun n => -(n : Int)
  | '+' :: cs => ((digits? cs).filter (· < signedBound)).map Int.ofNat
  | cs => ((digits? cs).filter (· < signedBound)).map Int.ofNat

end DocSearch.Text
