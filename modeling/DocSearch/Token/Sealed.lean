import DocSearch.Token.ChaCha20
import DocSearch.Token.Poly1305
/-!
# Sealed messages

ChaCha20 and Poly1305 together: a message is encrypted, and the result is authenticated together
with data that is not encrypted.

* `Sealed.close` — the encrypted message with its tag of sixteen bytes behind it.
* `Sealed.open?` — the message, if the tag is right.
-/

namespace DocSearch.Sealed

/-- Length of the tag. -/
def tagLength : Nat := 16

/-- Messages of so many bytes would use up the counter of the blocks. -/
def tooLong (n : Nat) : Bool := 0xFFFFFFFF ≤ n / 64

/-- The text that the tag vouches for: both parts filled up to blocks, and their lengths. -/
def authenticated (data encrypted : List UInt8) : List UInt8 :=
  Bytes.fill 16 data ++ Bytes.fill 16 encrypted ++ Bytes.little 8 data.length ++
    Bytes.little 8 encrypted.length

/-- The tag of an encrypted message. Its key is the start of block 0. -/
def tagOf (key nonce data encrypted : List UInt8) : List UInt8 :=
  Poly1305.tag ((ChaCha20.block key nonce 0).take 32) (authenticated data encrypted)

/-- Encrypts a message and puts the tag behind it; absent when the message is too long. -/
def close (key nonce data message : List UInt8) : Option (List UInt8) :=
  if tooLong message.length then none
  else
    let encrypted := ChaCha20.cipher key nonce message
    some (encrypted ++ tagOf key nonce data encrypted)

/-- The message that was closed under the same key, nonce and data; absent when the tag is not the
one that the encrypted message has. -/
def open? (key nonce data closed : List UInt8) : Option (List UInt8) :=
  let encrypted := closed.take (closed.length - tagLength)
  let tag := closed.drop (closed.length - tagLength)
  if closed.length < tagLength || tooLong encrypted.length then none
  else if tagOf key nonce data encrypted = tag then some (ChaCha20.cipher key nonce encrypted)
  else none

end DocSearch.Sealed
