import DocSearch.Binary64.Decimal
import DocSearch.Json.Basic
/-!
# Numbers of JSON texts

A whole number that a word of 64 bits holds is kept. Any other number is its first digits, as many
as an unsigned word holds, times a power of ten: both are rounded to binary64 and multiplied or
divided, so that long texts may be off by a last place. Magnitudes beyond the format have no value.

* `Json.Numeral` — the parts of a number as it is written.
* `Json.Numeral.value?` — its value.
-/

namespace DocSearch.Json

/-- The parts of a number as it is written. `fraction` and `exponent` are absent when the point or
the letter are. -/
structure Numeral where
  negative : Bool
  whole : List Char
  fraction : Option (List Char)
  exponent : Option (Bool × List Char)
deriving Repr

/-- The leading digits that an unsigned word holds, behind `acc`, and how many were taken. -/
def takeDigits (acc count : Nat) : List Char → Nat × Nat
  | [] => (acc, count)
  | c :: cs =>
    let next := acc * 10 + (c.toNat - 48)
    if next < Text.wordBound then takeDigits next (count + 1) cs else (acc, count)

/-- Powers of ten up to `10 ^ 308`. -/
def powerOfTen (n : Nat) : Binary64 := .ofNat (Nat.pow 10 n)

/-- The number `digits * 10 ^ exponent` in two roundings, without sign. Below `10 ^ -308` the digits
are divided twice. -/
def scaled? (digits : Nat) (exponent : Int) : Option Binary64 :=
  let x := Binary64.ofNat digits
  let n := exponent.natAbs
  if digits = 0 then some x
  else if 0 ≤ exponent then
    if n ≤ 308 then some (x.mul (powerOfTen n)) |>.filter (·.isFinite) else none
  else if n ≤ 308 then some (x.div (powerOfTen n))
  else if n ≤ 616 then some ((x.div (powerOfTen 308)).div (powerOfTen (n - 308)))
  else some .zero

/-- The value of the exponent, absent when it exceeds a signed word of 32 bits. -/
def exponentValue? (ds : List Char) : Option Nat :=
  (some (Binary64.digitsValue ds)).filter (· < 0x80000000)

/-- Brings an exponent into the signed words of 32 bits. -/
def clampExponent (e : Int) : Int := max (-0x80000000) (min e 0x7FFFFFFF)

/-- The value of a number with a point, an exponent or too many digits. -/
def Numeral.real? (n : Numeral) : Option Binary64 :=
  let (acc, taken) := takeDigits 0 0 n.whole
  let before := n.whole.length - taken
  let (digits, after) := takeDigits acc 0 (n.fraction.getD [])
  let start : Int := before - after
  let magnitude? : Option Binary64 :=
    match n.exponent with
    | none => scaled? digits start
    | some (negative, ds) =>
      match exponentValue? ds with
      | some e => scaled? digits (clampExponent (if negative then start - e else start + e))
      | none => if digits ≠ 0 ∧ !negative then none else some .zero
  magnitude?.map fun x => if n.negative then x.neg else x

/-- The value of a number. A minus before zero makes it a binary64 number. -/
def Numeral.value? (n : Numeral) : Option JsonNumber :=
  let v := Binary64.digitsValue n.whole
  if n.fraction.isNone && n.exponent.isNone then
    if n.negative then
      if v = 0 then some (.real (Binary64.zero.neg))
      else if v ≤ Text.signedBound then some (.int (-(v : Int)))
      else n.real?.map .real
    else if v < Text.wordBound then some (.int v)
    else n.real?.map .real
  else n.real?.map .real

end DocSearch.Json
