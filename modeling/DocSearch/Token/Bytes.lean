/-!
# Words as bytes

* `Bytes.little`, `Bytes.ofLittle` — numbers as bytes, the lowest byte first, and back.
* `Bytes.big` — numbers as bytes, the highest byte first.
* `Bytes.chunks` — a list cut into pieces of one length, the last one perhaps shorter.
-/

namespace DocSearch.Bytes

/-- The `n` lowest bytes of a number, the lowest first. -/
def little : Nat → Nat → List UInt8
  | 0, _ => []
  | n + 1, x => UInt8.ofNat (x % 256) :: little n (x / 256)

/-- The number of some bytes, the lowest first. -/
def ofLittle : List UInt8 → Nat
  | [] => 0
  | b :: bs => b.toNat + 256 * ofLittle bs

/-- The `n` lowest bytes of a number, the highest first. -/
def big (n x : Nat) : List UInt8 := (little n x).reverse

/-- The number of some bytes, the highest first. -/
def ofBig (bs : List UInt8) : Nat := ofLittle bs.reverse

/-- The list in pieces of `size` items. -/
def chunks {α : Type} (size : Nat) (xs : List α) : List (List α) :=
  (List.range ((xs.length + size - 1) / size)).map fun i => (xs.drop (i * size)).take size

/-- The list filled up with zeros to a multiple of `size`. -/
def fill (size : Nat) (bs : List UInt8) : List UInt8 :=
  bs ++ List.replicate ((size - bs.length % size) % size) 0

end DocSearch.Bytes
