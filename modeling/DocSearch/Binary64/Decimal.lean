import DocSearch.Binary64.Basic
import DocSearch.Text.Numeral
/-!
# Decimal text of binary64 numbers

* `Binary64.ofDecimal` — the number next to `± digits * 10 ^ exponent`.
* `Binary64.read?` — reads `12`, `-1.5`, `.5`, `1.`, `2e-3`.
* `Binary64.shortest` — the fewest decimal digits that read back as the same number, of those the
  nearest to it.
* `Binary64.render` — those digits, positional from `1e-5` up to below `1e16`, always with a point
  or an exponent.
-/

namespace DocSearch.Binary64

/-- The number next to `± digits * 10 ^ exponent`. Far outside the range the power of ten is not
computed: the result is zero or infinite there. -/
def ofDecimal (negative : Bool) (digits : Nat) (exponent : Int) : Binary64 :=
  if digits = 0 || exponent + digits.log2 < -500 then ofWord negative 0
  else if 500 < exponent then ofWord negative infinityWord
  else if 0 ≤ exponent then nearest negative (digits * Nat.pow 10 exponent.toNat) 1
  else nearest negative digits (Nat.pow 10 (-exponent).toNat)

/-! ## Reading -/

/-- The digits at the front and what follows them. -/
def spanDigits (cs : List Char) : List Char × List Char :=
  cs.span fun c => '0' ≤ c && c ≤ '9'

/-- The value of a row of digits, zero for an empty one. -/
def digitsValue (cs : List Char) : Nat := (Text.digitsFrom? 0 cs).getD 0

/-- A sign at the front, and whether it is a minus. -/
def takeSign : List Char → Bool × List Char
  | '-' :: cs => (true, cs)
  | '+' :: cs => (false, cs)
  | cs => (false, cs)

/-- The exponent that ends a numeral: nothing at all, or `e` with an integer. -/
def readExponent? : List Char → Option Int
  | [] => some 0
  | c :: cs =>
    if c = 'e' ∨ c = 'E' then
      let (negative, ds) := takeSign cs
      (Text.digits? ds).map fun n => if negative then -(n : Int) else n
    else none

/-- The fraction behind the digits before the point, and what follows it. -/
def takeFraction : List Char → List Char × List Char
  | '.' :: cs => spanDigits cs
  | cs => ([], cs)

/-- Reads a decimal numeral with a sign, a point and an exponent, each of them optional. -/
def read? (cs : List Char) : Option Binary64 :=
  let (negative, cs) := takeSign cs
  let (whole, cs) := spanDigits cs
  let (fraction, cs) := takeFraction cs
  if whole.isEmpty && fraction.isEmpty then none
  else (readExponent? cs).map fun e =>
    ofDecimal negative (digitsValue (whole ++ fraction)) (e - fraction.length)

/-! ## Writing -/

/-- The magnitudes that round to a number, in quarters of its unit: from `low` to `high`, the ends
included when `closed`. -/
structure Interval where
  low : Nat
  high : Nat
  closed : Bool

/-- The interval of the magnitudes that round to `x`. Just above a power of two the numbers below
lie twice as dense. -/
def interval (x : Binary64) : Interval :=
  let below := if x.coefficient = binade ∧ 0 < x.scale then 1 else 2
  { low := (4 * x.coefficient - below) * Nat.pow 2 x.scale
    high := (4 * x.coefficient + 2) * Nat.pow 2 x.scale
    closed := x.coefficient % 2 = 0 }

/-- The quotient `num / den` lies in the interval. -/
def Interval.holds (i : Interval) (num den : Nat) : Bool :=
  if i.closed then i.low * den ≤ num && num ≤ i.high * den
  else i.low * den < num && num < i.high * den

/-- The multiples of `10 ^ e` next to `x`, below and above, as far as they round to `x`: the nearer
one. -/
def onGrid? (x : Binary64) (e : Int) : Option Nat :=
  let quarters := 4 * unitsPerOne
  let (num, den) := if 0 ≤ e then (quarters * Nat.pow 10 e.toNat, 1) else (quarters, Nat.pow 10 (-e).toNat)
  let exact := 4 * x.units * den
  let d := exact / num
  let fits (n : Nat) : Bool := 0 < n && x.interval.holds (n * num) den
  if fits d && fits (d + 1) then some (if exact - d * num ≤ (d + 1) * num - exact then d else d + 1)
  else if fits d then some d
  else if fits (d + 1) then some (d + 1)
  else none

/-- The coarsest grid with a hit, from `10 ^ e` downwards. -/
def firstGrid (x : Binary64) : Nat → Int → Nat × Int
  | 0, e => (0, e)
  | fuel + 1, e =>
    match x.onGrid? e with
    | some d => (d, e)
    | none => firstGrid x fuel (e - 1)

/-- Digits and exponent of ten of a finite number other than zero. The search starts at a power of
ten above the number and needs 17 places at most. -/
def shortest (x : Binary64) : Nat × Int :=
  let log2 : Int := x.units.log2 - 1074
  firstGrid x 40 (log2 * 30103 / 100000 + 2)

/-- Zeros. -/
def zeros (n : Nat) : String := .ofList (List.replicate n '0')

/-- The digits placed by their exponent, positional while the point stands at most five places
before them and at most sixteen behind. -/
def place (digits : String) (exponent : Int) : String :=
  let count : Int := digits.length
  let point := count + exponent
  if 0 ≤ exponent ∧ point ≤ 16 then digits ++ zeros exponent.toNat ++ ".0"
  else if 0 < point ∧ point ≤ 16 then
    .ofList (digits.toList.take point.toNat) ++ "." ++ .ofList (digits.toList.drop point.toNat)
  else if -5 < point ∧ point ≤ 0 then "0." ++ zeros (-point).toNat ++ digits
  else
    let tail := digits.toList.drop 1
    .ofList (digits.toList.take 1) ++ (if tail.isEmpty then "" else "." ++ .ofList tail) ++
      "e" ++ toString (point - 1)

/-- The text of a finite number. -/
def render (x : Binary64) : String :=
  let sign := if x.isNegative then "-" else ""
  if x.word = 0 then sign ++ "0.0"
  else
    let (digits, exponent) := x.shortest
    sign ++ place (toString digits) exponent

end DocSearch.Binary64
