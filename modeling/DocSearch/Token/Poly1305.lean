import DocSearch.Token.Bytes
/-!
# Poly1305

`Poly1305.tag` — the authentication tag of a message under a key used once: the message as a
polynomial over the integers modulo `2 ^ 130 - 5`, evaluated at one half of the key, plus the other
half.
-/

namespace DocSearch.Poly1305

/-- The modulus. -/
def modulus : Nat := Nat.pow 2 130 - 5

/-- The bits that stay of the first half of the key. -/
def clampMask : Nat := 0x0FFFFFFC0FFFFFFC0FFFFFFC0FFFFFFF

/-- A block of up to sixteen bytes with a one bit behind it. -/
def blockValue (block : List UInt8) : Nat := Bytes.ofLittle block + Nat.pow 2 (8 * block.length)

/-- The polynomial of a message at `r`. -/
def evaluate (r : Nat) (message : List UInt8) : Nat :=
  (Bytes.chunks 16 message).foldl (fun acc b => (acc + blockValue b) * r % modulus) 0

/-- The tag of a message, sixteen bytes. -/
def tag (key message : List UInt8) : List UInt8 :=
  let r := Bytes.ofLittle (key.take 16) &&& clampMask
  let s := Bytes.ofLittle (key.drop 16)
  Bytes.little 16 (evaluate r message + s)

end DocSearch.Poly1305
