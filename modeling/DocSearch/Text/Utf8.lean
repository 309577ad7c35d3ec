/-!
# UTF-8

* `Text.bytes` — the bytes of a text.
* `Text.ofBytes?` — the text of some bytes, absent when they are not UTF-8.
* `Text.ofBytesLossy` — the same with a replacement character for each longest part that starts a
  character but does not finish it.
-/

namespace DocSearch.Text

/-- The bytes of a text. -/
def bytes (s : String) : List UInt8 := s.toUTF8.toList

/-- The text of some bytes, if they are UTF-8. -/
def ofBytes? (bs : List UInt8) : Option String := String.fromUTF8? bs.toByteArray

/-- The first byte of a character tells how many bytes follow and in which range the next one must
lie; absent for a byte that starts no character. -/
def leadByte? (b : UInt8) : Option (Nat × UInt8 × UInt8) :=
  if b < 0x80 then some (0, 0x80, 0xBF)
  else if b < 0xC2 then none
  else if b < 0xE0 then some (1, 0x80, 0xBF)
  else if b = 0xE0 then some (2, 0xA0, 0xBF)
  else if b = 0xED then some (2, 0x80, 0x9F)
  else if b < 0xF0 then some (2, 0x80, 0xBF)
  else if b = 0xF0 then some (3, 0x90, 0xBF)
  else if b < 0xF4 then some (3, 0x80, 0xBF)
  else if b = 0xF4 then some (3, 0x80, 0x8F)
  else none

/-- The bytes at the front that continue a character: at most `n`, the first between `lo` and `hi`.
-/
def continuation (lo hi : UInt8) : Nat → List UInt8 → List UInt8
  | 0, _ => []
  | _, [] => []
  | n + 1, b :: bs => if lo ≤ b ∧ b ≤ hi then b :: continuation 0x80 0xBF n bs else []

/-- The replacement character in UTF-8. -/
def replacement : List UInt8 := [0xEF, 0xBF, 0xBD]

/-- Replaces what is no character, `skip` bytes being already dealt with. -/
def repairFrom : Nat → List UInt8 → List UInt8
  | _, [] => []
  | skip + 1, _ :: bs => repairFrom skip bs
  | 0, b :: bs =>
    match leadByte? b with
    | none => replacement ++ repairFrom 0 bs
    | some (n, lo, hi) =>
      let rest := continuation lo hi n bs
      (if rest.length = n then b :: rest else replacement) ++ repairFrom rest.length bs

/-- The text of some bytes, with a replacement character where they are not UTF-8. -/
def ofBytesLossy (bs : List UInt8) : String := (ofBytes? (repairFrom 0 bs)).getD ""

end DocSearch.Text
