import DocSearch.Text.Range
import DocSearch.Text.WidthTable
/-!
# Ligatures

* `Text.Ligature` — a letter at the start of a text that may be one sign with the letters before it.
* `Ligature.ofChar?` — the letters that may.
* `Ligature.join?` — the places that a character takes before such a letter, and what the two are
  for the characters before them.
-/

namespace DocSearch.Text

/-- The character that joins what stands before it and behind it to one sign. -/
def joiner : Char := '\u200D'

/-- The character chooses among the forms of the one before it, or is not shown at all, so that
letters may join across it. -/
def isFormSelector (c : Char) : Bool :=
  [(0x34F, 0x34F), (0x17B4, 0x17B5), (0x180B, 0x180D), (0x180F, 0x180F), (0xFE00, 0xFE0F),
    (0xE0100, 0xE01EF)].any (inRange c.toNat)

/-- A mark that takes no place and lets the letters around it join. -/
def isJoiningMark (c : Char) : Bool :=
  zeroWidthRanges.any (inRange c.toNat) && !separatingRanges.any (inRange c.toNat)

/-- An alef in any of its Arabic forms. -/
def isAlef (c : Char) : Bool :=
  [(0x622, 0x623), (0x625, 0x625), (0x627, 0x627), (0x671, 0x673), (0x675, 0x675),
    (0x773, 0x774), (0x870, 0x882)].any (inRange c.toNat)

/-- A lam in any of its Arabic forms. -/
def isLam (c : Char) : Bool :=
  [(0x644, 0x644), (0x6B5, 0x6B8), (0x76A, 0x76A), (0x8A6, 0x8A6), (0x8C7, 0x8C7)].any
    (inRange c.toNat)

/-- A consonant of Tifinagh. -/
def isTifinaghConsonant (c : Char) : Bool :=
  [(0x2D31, 0x2D65), (0x2D6F, 0x2D6F)].any (inRange c.toNat)

/-- The first of two tone letters of Lisu. -/
def isFirstTone (c : Char) : Bool := inRange c.toNat (0xA4F8, 0xA4FB)

/-- The second of two tone letters of Lisu. -/
def isSecondTone (c : Char) : Bool := inRange c.toNat (0xA4FC, 0xA4FD)

/-- A letter of Khmer that may be written below the letter before it. -/
def isKhmerSubscript (c : Char) : Bool :=
  [(0x1780, 0x1782), (0x1784, 0x1787), (0x1789, 0x178C), (0x178E, 0x1793), (0x1795, 0x1798),
    (0x179B, 0x179D), (0x17A0, 0x17A0), (0x17A2, 0x17A2), (0x17A7, 0x17A7), (0x17AB, 0x17AC),
    (0x17AF, 0x17AF)].any (inRange c.toNat)

/-- A letter at the start of a text that may be one sign with the letters before it. -/
inductive Ligature where
  /-- An Arabic alef, which joins a lam. -/
  | alef
  /-- A Hebrew lamed. -/
  | lamed
  /-- A Hebrew lamed with a joiner before it, which joins an alef. -/
  | joinedLamed
  /-- A Buginese ya. -/
  | ya
  /-- A Buginese ya with a joiner before it, which joins the vowel i. -/
  | joinedYa
  /-- The vowel i and a Buginese ya, which join an a. -/
  | vowelYa
  /-- A consonant of Tifinagh. -/
  | consonant
  /-- A consonant of Tifinagh with a joiner before it, which joins a consonant. -/
  | joinedConsonant
  /-- A consonant of Tifinagh with the joiner of its script before it. -/
  | boundConsonant
  /-- The second of two tone letters of Lisu. -/
  | tone
  /-- An Old Turkic i. -/
  | orkhon
  /-- An Old Turkic i with a joiner before it, which joins a t. -/
  | joinedOrkhon
  /-- A letter of Khmer that a coeng puts below the letter before it. -/
  | subscript
deriving DecidableEq, Repr, Inhabited

namespace Ligature

/-- The letter that may be one sign with those before it. -/
def ofChar? (c : Char) : Option Ligature :=
  if isAlef c then some .alef
  else if c = '\u05DC' then some .lamed
  else if c = '\u1A10' then some .ya
  else if isTifinaghConsonant c then some .consonant
  else if isSecondTone c then some .tone
  else if c.toNat = 0x10C03 then some .orkhon
  else if isKhmerSubscript c then some .subscript
  else none

/-- The letter with a joiner before it. -/
def joined : Ligature → Ligature
  | .lamed => .joinedLamed
  | .ya => .joinedYa
  | .consonant => .joinedConsonant
  | .orkhon => .joinedOrkhon
  | l => l

/-- The places that a letter takes before another one, and what remains to be joined, if the two
are one sign. The joiner of Tifinagh is shown only where it joins nothing: it counts as one place
until a consonant before it takes the place back, and so does a letter of Khmer above a coeng. -/
def joinLetter? : Ligature → Char → Option (Int × Option Ligature)
  | .joinedLamed, c => if c = '\u05D0' then some (0, none) else none
  | .joinedYa, c => if c = '\u1A17' then some (0, some .vowelYa) else none
  | .vowelYa, c => if c = '\u1A15' then some (0, none) else none
  | .consonant, c => if c = '\u2D7F' then some (1, some .boundConsonant) else none
  | .joinedConsonant, c =>
    if c = '\u2D7F' then some (1, some .boundConsonant)
    else if isTifinaghConsonant c then some (0, none) else none
  | .boundConsonant, c => if isTifinaghConsonant c then some (-1, none) else none
  | .tone, c => if isFirstTone c then some (0, none) else none
  | .joinedOrkhon, c => if c.toNat = 0x10C32 then some (0, none) else none
  | .subscript, c => if c = '\u17D2' then some (-1, none) else none
  | _, _ => none

/-- The places that a character takes before the letter, and what remains to be joined, if the
letter changes them. -/
def join? (l : Ligature) (c : Char) : Option (Int × Option Ligature) :=
  if l = .alef then
    if isLam c then some (0, none) else if isJoiningMark c then some (0, some .alef) else none
  else if c = joiner then some (0, some l.joined)
  else if isFormSelector c then some (0, some l)
  else l.joinLetter? c

end Ligature

end DocSearch.Text
