import DocSearch.Binary64.Basic
/-!
# Sizes for readers

* `fileSize` — a size in the largest unit that leaves at least one of it, with one place behind the
  point, a half going to the even neighbour. Sizes from `2 ^ 53` bytes on are rounded to binary64
  first.
-/

namespace DocSearch

/-- The number as binary64 holds it, which is whole again. -/
def roundedBytes (bytes : Nat) : Nat := (Binary64.ofNat bytes).units / Binary64.unitsPerOne

/-- How often a size can be divided by 1024 before less than one is left, at most three times. -/
def sizePower (bytes : Nat) : Nat :=
  if bytes < 1024 then 0
  else if bytes < 1048576 then 1
  else if bytes < 1073741824 then 2
  else 3

/-- The unit of 1024 to a power. -/
def sizeUnit (power : Nat) : String := ["B", "KB", "MB", "GB"].getD power ""

/-- A size as readers like it. -/
def fileSize (bytes : Nat) : String :=
  let value := roundedBytes bytes
  let power := sizePower value
  if power = 0 then toString bytes ++ " " ++ sizeUnit 0
  else
    let tenths := Binary64.roundDiv (value * 10) (Nat.pow 1024 power)
    toString (tenths / 10) ++ "." ++ toString (tenths % 10) ++ " " ++ sizeUnit power

end DocSearch
