import DocSearch.Json.Form
import DocSearch.Json.Number
import DocSearch.Text.Utf8
/-!
# Reading JSON text

The text is given as bytes: outside of strings JSON is ASCII, and inside a skipped string even bytes
that are not UTF-8 are let pass.

* `Json.Piece`, `Json.scanString`, `Json.assemble` — a string in two passes: first its raw bytes and
  escapes up to the closing quote, then the bytes it denotes.
* `Form.parse?` — the form of a whole text.
* `Json.parse?` — its value.

A form nested deeper than `Form.depthLimit` is read, but marked unreadable.
-/

namespace DocSearch

namespace Json

/-- A part of a string: a byte that stands for itself or for which a letter was escaped, or a unit
of UTF-16 in hexadecimal digits. -/
inductive Piece where
  | byte (b : UInt8)
  | unit (n : Nat)
deriving DecidableEq, Repr

/-- The value of a hexadecimal digit. -/
def hexValue? (b : UInt8) : Option Nat :=
  if 0x30 ≤ b ∧ b ≤ 0x39 then some (b.toNat - 0x30)
  else if 0x41 ≤ b ∧ b ≤ 0x46 then some (b.toNat - 0x37)
  else if 0x61 ≤ b ∧ b ≤ 0x66 then some (b.toNat - 0x57)
  else none

/-- The value of four hexadecimal digits. -/
def hexUnit? (a b c d : UInt8) : Option Nat :=
  match hexValue? a, hexValue? b, hexValue? c, hexValue? d with
  | some a, some b, some c, some d => some (((a * 16 + b) * 16 + c) * 16 + d)
  | _, _, _, _ => none

/-- The byte that a backslash and a letter denote. -/
def letterEscape? (b : UInt8) : Option UInt8 :=
  if b = 0x22 ∨ b = 0x5C ∨ b = 0x2F then some b
  else if b = 0x62 then some 0x08
  else if b = 0x66 then some 0x0C
  else if b = 0x6E then some 0x0A
  else if b = 0x72 then some 0x0D
  else if b = 0x74 then some 0x09
  else none

/-- The pieces of a string behind its opening quote, and what follows the closing one. -/
def scanString : List UInt8 → Option (List Piece × List UInt8)
  | [] => none
  | 0x22 :: rest => some ([], rest)
  | 0x5C :: 0x75 :: a :: b :: c :: d :: rest =>
    match hexUnit? a b c d, scanString rest with
    | some n, some (ps, rest) => some (.unit n :: ps, rest)
    | _, _ => none
  | 0x5C :: b :: rest =>
    match letterEscape? b, scanString rest with
    | some b, some (ps, rest) => some (.byte b :: ps, rest)
    | _, _ => none
  | b :: rest =>
    if b < 0x20 ∨ b = 0x5C then none
    else (scanString rest).map fun (ps, rest) => (.byte b :: ps, rest)

/-- The bytes of a code point. -/
def encodeCodePoint (n : Nat) : List UInt8 := String.utf8EncodeChar (Char.ofNat n)

/-- The bytes that the pieces denote. Half of a surrogate pair denotes nothing. -/
def assemble : List Piece → Option (List UInt8)
  | [] => some []
  | .byte b :: ps => (assemble ps).map (b :: ·)
  | .unit h :: .unit l :: ps =>
    if 0xD800 ≤ h ∧ h < 0xDC00 then
      if 0xDC00 ≤ l ∧ l < 0xE000 then
        (assemble ps).map (encodeCodePoint (0x10000 + (h - 0xD800) * 0x400 + (l - 0xDC00)) ++ ·)
      else none
    else if 0xDC00 ≤ h ∧ h < 0xE000 then none
    else (assemble (.unit l :: ps)).map (encodeCodePoint h ++ ·)
  | .unit h :: ps =>
    if 0xD800 ≤ h ∧ h < 0xE000 then none else (assemble ps).map (encodeCodePoint h ++ ·)

/-- The text that the pieces denote. -/
def assembleText? (ps : List Piece) : Option String := (assemble ps).bind Text.ofBytes?

/-- Drops spaces, tabs and line ends. -/
def skipBlanks (bs : List UInt8) : List UInt8 :=
  bs.dropWhile fun b => b = 0x20 || b = 0x0A || b = 0x0D || b = 0x09

/-- The byte is a decimal digit. -/
def isDigitByte (b : UInt8) : Bool := 0x30 ≤ b && b ≤ 0x39

/-- The digits at the front as characters, and what follows them. -/
def spanDigitBytes (bs : List UInt8) : List Char × List UInt8 :=
  ((bs.takeWhile isDigitByte).map fun b => Char.ofNat b.toNat, bs.dropWhile isDigitByte)

/-- The digits before the point: a single zero, or digits that do not start with zero. -/
def scanWhole : List UInt8 → Option (List Char × List UInt8)
  | 0x30 :: rest =>
    match rest with
    | b :: _ => if isDigitByte b then none else some (['0'], rest)
    | [] => some (['0'], rest)
  | bs =>
    let (ds, rest) := spanDigitBytes bs
    if ds.isEmpty then none else some (ds, rest)

/-- The digits behind a point, if there is a point. -/
def scanFraction : List UInt8 → Option (Option (List Char) × List UInt8)
  | 0x2E :: rest =>
    let (ds, rest) := spanDigitBytes rest
    if ds.isEmpty then none else some (some ds, rest)
  | bs => some (none, bs)

/-- The sign of an exponent. -/
def scanSign : List UInt8 → Bool × List UInt8
  | 0x2B :: rest => (false, rest)
  | 0x2D :: rest => (true, rest)
  | bs => (false, bs)

/-- The exponent, if there is one. -/
def scanExponent : List UInt8 → Option (Option (Bool × List Char) × List UInt8)
  | b :: rest =>
    if b = 0x65 ∨ b = 0x45 then
      let (negative, rest) := scanSign rest
      let (ds, rest) := spanDigitBytes rest
      if ds.isEmpty then none else some (some (negative, ds), rest)
    else some (none, b :: rest)
  | [] => some (none, [])

/-- The number at the front. -/
def scanNumber (negative : Bool) (bs : List UInt8) : Option (Numeral × List UInt8) := do
  let (whole, bs) ← scanWhole bs
  let (fraction, bs) ← scanFraction bs
  let (exponent, bs) ← scanExponent bs
  return (⟨negative, whole, fraction, exponent⟩, bs)

end Json

namespace Form

open Json

/-- Arrays and objects may be nested this deep. -/
def depthLimit : Nat := 127

/-- The form of a number. -/
def ofNumeral (n : Numeral) : Form :=
  match n.value? with
  | some v => .num v
  | none => .unreadable

/-- The form of a string. -/
def ofPieces (ps : List Piece) : Form :=
  match assembleText? ps with
  | some s => .str s
  | none => .unreadable

/-- The form, unless there is no room for another level. -/
def within (room : Nat) (f : Form) : Form := if room = 0 then .unreadable else f

/-- An object of scanned fields, unreadable when a name is. -/
def ofFields (fields : List (List Piece × Form)) : Form :=
  match fields.mapM fun f => (assembleText? f.1).map fun name => (name, f.2) with
  | some fs => .obj fs
  | none => .unreadable

mutual

/-- The form at the front, and what follows it. `room` counts the levels that may still be opened;
`fuel` bounds the steps. -/
def scan (fuel room : Nat) (bs : List UInt8) : Option (Form × List UInt8) :=
  match fuel with
  | 0 => none
  | fuel + 1 =>
    match skipBlanks bs with
    | 0x6E :: 0x75 :: 0x6C :: 0x6C :: rest => some (.null, rest)
    | 0x74 :: 0x72 :: 0x75 :: 0x65 :: rest => some (.bool true, rest)
    | 0x66 :: 0x61 :: 0x6C :: 0x73 :: 0x65 :: rest => some (.bool false, rest)
    | 0x22 :: rest => (scanString rest).map fun (ps, rest) => (ofPieces ps, rest)
    | 0x5B :: rest =>
      match skipBlanks rest with
      | 0x5D :: rest => some (within room (.arr []), rest)
      | rest => (scanItems fuel (room - 1) rest).map fun (xs, rest) => (within room (.arr xs), rest)
    | 0x7B :: rest =>
      match skipBlanks rest with
      | 0x7D :: rest => some (within room (.obj []), rest)
      | rest =>
        (scanFields fuel (room - 1) rest).map fun (fs, rest) => (within room (ofFields fs), rest)
    | 0x2D :: rest => (scanNumber true rest).map fun (n, rest) => (ofNumeral n, rest)
    | rest => (scanNumber false rest).map fun (n, rest) => (ofNumeral n, rest)

/-- The items up to the closing bracket. -/
def scanItems (fuel room : Nat) (bs : List UInt8) : Option (List Form × List UInt8) :=
  match fuel with
  | 0 => none
  | fuel + 1 =>
    match scan fuel room bs with
    | none => none
    | some (x, rest) =>
      match skipBlanks rest with
      | 0x5D :: rest => some ([x], rest)
      | 0x2C :: rest => (scanItems fuel room rest).map fun (xs, rest) => (x :: xs, rest)
      | _ => none

/-- The fields up to the closing brace. -/
def scanFields (fuel room : Nat) (bs : List UInt8) :
    Option (List (List Piece × Form) × List UInt8) :=
  match fuel with
  | 0 => none
  | fuel + 1 =>
    match skipBlanks bs with
    | 0x22 :: rest =>
      match scanString rest with
      | none => none
      | some (name, rest) =>
        match skipBlanks rest with
        | 0x3A :: rest =>
          match scan fuel room rest with
          | none => none
          | some (x, rest) =>
            match skipBlanks rest with
            | 0x7D :: rest => some ([(name, x)], rest)
            | 0x2C :: rest =>
              (scanFields fuel room rest).map fun (fs, rest) => ((name, x) :: fs, rest)
            | _ => none
        | _ => none
    | _ => none

end

/-- The form of a whole text. Every step takes at least one byte or opens one level, so twice the
length is fuel enough. -/
def parse? (bs : List UInt8) : Option Form :=
  match scan (2 * bs.length + 2) depthLimit bs with
  | some (f, rest) => if (skipBlanks rest).isEmpty then some f else none
  | none => none

end Form

/-- The value of a whole text. -/
def Json.parse? (bs : List UInt8) : Option Json := (Form.parse? bs).bind Form.value?

end DocSearch
