/-!
# Binary64 numbers

* `Binary64` — a number of the binary format of 64 bits, kept as its word.
* `Binary64.nearest` — the number next to a quotient of naturals; of two equally near ones, the one
  with the even coefficient.
* `Binary64.mul`, `Binary64.div` — the exact result, rounded once.
* `Binary64.orderKey` — the total order of the words: `-0` stands below `0`.

All arithmetic is exact arithmetic on naturals. A finite number is `coefficient * 2 ^ scale` in
units of `2 ^ -1074`, the least positive number.
-/

namespace DocSearch

/-- A number of the binary format of 64 bits. -/
structure Binary64 where
  bits : UInt64
deriving DecidableEq, Repr, Inhabited

namespace Binary64

/-- The quotient rounded to the nearest natural, a half to the even neighbour. -/
def roundDiv (num den : Nat) : Nat :=
  let q := num / den
  let r := num % den
  if 2 * r < den then q
  else if den < 2 * r then q + 1
  else if q % 2 = 0 then q else q + 1

/-- The quotient rounded to the nearest natural, a half upwards. -/
def roundDivUp (num den : Nat) : Nat := (2 * num + den) / (2 * den)

/-- The word of positive infinity. -/
def infinityWord : Nat := 0x7FF0000000000000

/-- The word of the sign. -/
def signWord : Nat := 0x8000000000000000

/-- The number of words with one exponent. Of these the lowest is a power of two. -/
def binade : Nat := 0x10000000000000

/-- The quotient divided by `2 ^ e`, as a quotient of naturals. -/
def scaleDown (num den : Nat) (e : Int) : Nat × Nat :=
  if 0 ≤ e then (num, den * Nat.pow 2 e.toNat) else (num * Nat.pow 2 (-e).toNat, den)

/-- The exponent of the last binary place of the number next to the quotient: 53 places in all, but
never below `-1074`. -/
def lastPlace (num den : Nat) : Int :=
  let e : Int := num.log2 - den.log2 - 53
  let (n, d) := scaleDown num den e
  max (if n / d < 2 * binade then e else e + 1) (-1074)

/-- The word of the number next to a positive quotient. A coefficient that rounds up to the next
power of two carries into the exponent, as it should. -/
def nearestWord (num den : Nat) : Nat :=
  if num = 0 then 0
  else
    let e := lastPlace num den
    let (n, d) := scaleDown num den e
    min ((e + 1074).toNat * binade + roundDiv n d) infinityWord

/-- The number of that sign and word without sign. -/
def ofWord (negative : Bool) (word : Nat) : Binary64 :=
  ⟨UInt64.ofNat (if negative then word + signWord else word)⟩

/-- The number next to `± num / den`. -/
def nearest (negative : Bool) (num den : Nat) : Binary64 := ofWord negative (nearestWord num den)

/-- The word less its sign. -/
def word (x : Binary64) : Nat := x.bits.toNat % signWord

/-- The sign is set. -/
def isNegative (x : Binary64) : Bool := signWord ≤ x.bits.toNat

/-- Neither infinite nor undefined. -/
def isFinite (x : Binary64) : Bool := x.word < infinityWord

/-- The coefficient of a finite number. -/
def coefficient (x : Binary64) : Nat :=
  if x.word < binade then x.word else x.word % binade + binade

/-- The power of two of a finite number, counted from the least positive number. -/
def scale (x : Binary64) : Nat := x.word / binade - 1

/-- The magnitude of a finite number in units of the least positive one. -/
def units (x : Binary64) : Nat := x.coefficient * Nat.pow 2 x.scale

/-- How many units make up one. -/
def unitsPerOne : Nat := Nat.pow 2 1074

/-- Zero. -/
def zero : Binary64 := ⟨0⟩

/-- The number next to a natural. -/
def ofNat (n : Nat) : Binary64 := nearest false n 1

/-- The number next to an integer. -/
def ofInt (n : Int) : Binary64 := nearest (n < 0) n.natAbs 1

/-- The product of finite numbers, rounded once. -/
def mul (x y : Binary64) : Binary64 :=
  nearest (x.isNegative != y.isNegative) (x.units * y.units) (unitsPerOne * unitsPerOne)

/-- The quotient of a finite number by a finite number other than zero, rounded once. -/
def div (x y : Binary64) : Binary64 :=
  nearest (x.isNegative != y.isNegative) x.units y.units

/-- The number of the other sign. -/
def neg (x : Binary64) : Binary64 := ofWord (!x.isNegative) x.word

/-- The key of the total order. -/
def orderKey (x : Binary64) : Int := if x.isNegative then -(x.word : Int) - 1 else x.word

/-- The naturals next to the magnitude of `x * 2 ^ power`, a half upwards. -/
def roundScaled (x : Binary64) (power : Nat) : Nat := roundDivUp (x.units * Nat.pow 2 power) unitsPerOne

end Binary64

end DocSearch
