import DocSearch.Text.Ligature
import DocSearch.Text.Range
import DocSearch.Text.WidthTable
/-!
# Pictures

Several characters may make one picture: two pictures with a joiner between them, a picture and a
colour of skin, two letters of a flag, a flag and its tags.

* `Text.Picture` — the start of a text, as far as a character before it may belong to its picture.
* `Picture.ofChar?` — the characters with which a picture begins.
* `Picture.join?` — the places that a character takes before it, if the picture changes them.
-/

namespace DocSearch.Text

/-- A colour of skin. -/
def isSkinColour (c : Char) : Bool := inRange c.toNat (0x1F3FB, 0x1F3FF)

/-- A letter of a flag, two of which name a country. -/
def isFlagLetter (c : Char) : Bool := inRange c.toNat (0x1F1E6, 0x1F1FF)

/-- A character that is a picture on its own. -/
def isPicture (c : Char) : Bool := pictureRanges.any (inRange c.toNat)

/-- A picture that takes a colour of skin. -/
def takesSkin (c : Char) : Bool := skinRanges.any (inRange c.toNat)

/-- The character is a picture where a selector for pictures stands behind it. -/
def isSelectable (c : Char) : Bool := selectableRanges.any (inRange c.toNat)

/-- The character is a picture, and a narrow sign where a selector for text stands behind it. The
signs of Chinese writing in a square remain wide. -/
def hasNarrowForm (c : Char) : Bool :=
  isPicture c && isSelectable c && !inRange c.toNat (0x1F200, 0x1F2FF)

/-- A letter among the tags of a flag. -/
def isTagLetter (c : Char) : Bool := inRange c.toNat (0xE0061, 0xE007A)

/-- A digit among the tags of a flag. -/
def isTagDigit (c : Char) : Bool := inRange c.toNat (0xE0030, 0xE0039)

/-- The end of the tags of a flag. -/
def isTagEnd (c : Char) : Bool := c.toNat = 0xE007F

/-- The flag that takes tags. -/
def isTaggedFlag (c : Char) : Bool := c.toNat = 0x1F3F4

/-- The start of a text, as far as a character before it may belong to its picture. -/
inductive Picture where
  /-- A picture. -/
  | whole
  /-- A colour of skin. -/
  | skin
  /-- One letter of a flag. -/
  | letter
  /-- Two or more letters of flags. -/
  | letters
  /-- A joiner before a picture. -/
  | joined
  /-- The frame of a key before a joiner. -/
  | joinedKey
  /-- One letter of a flag before a joiner. -/
  | joinedLetter
  /-- An even number of letters of flags before a joiner. -/
  | joinedFlags
  /-- An odd number of letters of flags before a joiner, three at least. -/
  | joinedOddLetters
  /-- The last tags of a flag before a joiner: so many letters and the end. -/
  | tagLetters (n : Nat)
  /-- The last tags of a flag before a joiner: so many digits, then letters and the end. -/
  | tagDigits (n : Nat)
deriving DecidableEq, Repr, Inhabited

namespace Picture

/-- The start of a picture. -/
def ofChar? (c : Char) : Option Picture :=
  if isFlagLetter c then some .letter
  else if isSkinColour c then some .skin
  else if isPicture c then some .whole
  else none

/-- What is joined stays so before a selector for pictures. -/
def keepsSelector : Picture → Bool
  | .joined | .joinedKey => true
  | _ => false

/-- A letter before letters of a flag: two of them have the width of one picture, which is none
where a joiner adds it to another picture. -/
def joinFlagLetter? : Picture → Option (Int × Picture)
  | .letter | .letters => some (1, .letters)
  | .joined => some (1, .joinedLetter)
  | .joinedLetter | .joinedOddLetters => some (-1, .joinedFlags)
  | .joinedFlags => some (3, .joinedOddLetters)
  | _ => none

/-- A joiner before a picture. -/
def joinJoiner? : Picture → Option (Int × Picture)
  | .whole | .skin | .letters | .joinedFlags | .joinedOddLetters => some (0, .joined)
  | _ => none

/-- A tag before the tags of a flag: three letters or digits at the front, six in all at most. -/
def joinTag? (c : Char) : Picture → Option (Int × Picture)
  | .joined => if isTagEnd c then some (0, .tagLetters 0) else none
  | .tagLetters n =>
    if isTagLetter c && n < 6 then some (0, .tagLetters (n + 1))
    else if isTagDigit c && n < 5 then some (0, .tagDigits 1)
    else if isTaggedFlag c && 3 ≤ n then some (0, .whole)
    else none
  | .tagDigits n =>
    if isTagDigit c && n < 3 then some (0, .tagDigits (n + 1))
    else if isTaggedFlag c && n = 3 then some (0, .whole)
    else none
  | _ => none

/-- The places that a character takes before a picture, and what the two are for the character
before them, if the picture changes them. -/
def join? (p : Picture) (c : Char) : Option (Int × Picture) :=
  if c = joiner then p.joinJoiner?
  else if isFlagLetter c then p.joinFlagLetter?
  else if p = .skin && takesSkin c then some (0, .whole)
  else if p = .joined && c = '\u20E3' then some (0, .joinedKey)
  else if p = .joined && isSkinColour c then some (0, .skin)
  else if p = .joined && isPicture c then some (0, .whole)
  else p.joinTag? c

end Picture

end DocSearch.Text
