import DocSearch.Text.Utf8
/-!
# Percent codes

* `Percent.decode` — the bytes of a text in which `%41` stands for a byte.
* `Percent.encode` — a text in which the bytes of certain characters are written so.
* `Percent.formPairs`, `Percent.formEncode` — names and values of a query, where a plus is a space.
-/

namespace DocSearch.Percent

/-- The value of a hexadecimal digit. -/
def hexValue? (c : Char) : Option Nat :=
  if '0' ≤ c ∧ c ≤ '9' then some (c.toNat - 48)
  else if 'A' ≤ c ∧ c ≤ 'F' then some (c.toNat - 55)
  else if 'a' ≤ c ∧ c ≤ 'f' then some (c.toNat - 87)
  else none

/-- The hexadecimal digit of a number below 16, a capital. -/
def hexDigit (n : Nat) : Char := if n < 10 then Char.ofNat (48 + n) else Char.ofNat (55 + n)

/-- A byte as a percent code. -/
def code (b : UInt8) : List Char := ['%', hexDigit (b.toNat / 16), hexDigit (b.toNat % 16)]

/-- The bytes of a text with percent codes. A percent sign without two digits stands for itself. -/
def decode : List Char → List UInt8
  | [] => []
  | '%' :: a :: b :: rest =>
    match hexValue? a, hexValue? b with
    | some x, some y => UInt8.ofNat (x * 16 + y) :: decode rest
    | _, _ => 0x25 :: decode (a :: b :: rest)
  | c :: rest => String.utf8EncodeChar c ++ decode rest

/-- The text in which the characters that satisfy `p` are written as percent codes. -/
def encode (p : Char → Bool) (cs : List Char) : List Char :=
  cs.flatMap fun c => if p c then (String.utf8EncodeChar c).flatMap code else [c]

/-- Characters that stand for themselves in the values of a query. -/
def isFormPlain (c : Char) : Bool :=
  c.isAlphanum || c = '*' || c = '-' || c = '.' || c = '_'

/-- A text as the value of a query. -/
def formEncode (s : String) : List Char :=
  s.toList.flatMap fun c =>
    if c = ' ' then ['+']
    else if isFormPlain c then [c]
    else (String.utf8EncodeChar c).flatMap code

/-- A name or value of a query; bytes that are no text are replaced. -/
def formDecode (cs : List Char) : String :=
  Text.ofBytesLossy (decode (cs.map fun c => if c = '+' then ' ' else c))

/-- The part before the first character `c`, and what follows it. -/
def splitAt (c : Char) (cs : List Char) : List Char × List Char :=
  (cs.takeWhile (· ≠ c), (cs.dropWhile (· ≠ c)).drop 1)

/-- The names and values of a query. -/
def formPairs (query : List Char) : List (String × String) :=
  ((query.splitOnP (· == '&')).filter (!·.isEmpty)).map fun part =>
    let (name, value) := splitAt '=' part
    (formDecode name, formDecode value)

end DocSearch.Percent
