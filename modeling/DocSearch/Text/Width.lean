import DocSearch.Text.Ligature
import DocSearch.Text.Picture
/-!
# Display width

* `Text.charWidth` — the places that one character takes in a terminal.
* `Text.Behind` — what a text begins with, for the character before it.
* `Text.step` — the places that a character adds before a text.
* `Text.places` — the places that a text takes, counted from its end.
* `Text.width` — the same, less the characters that only set a colour.
* `Text.padded` — a text, filled up with spaces.
-/

namespace DocSearch.Text

/-! ## One character -/

/-- A control character. -/
def isControl (c : Char) : Bool := c.toNat < 0x20 || (0x7F ≤ c.toNat && c.toNat < 0xA0)

/-- The places that a character takes on its own. A control character counts as one. -/
def charWidth (c : Char) : Nat :=
  if c.toNat ≤ 0xA0 then 1
  else if c = '\u17D8' then 3
  else if c = '\u17A4' then 2
  else if wideRanges.any (inRange c.toNat) then 2
  else if zeroWidthRanges.any (inRange c.toNat) then 0
  else 1

/-- The character takes a place and is no control character. -/
def isShown (c : Char) : Bool := !isControl c && charWidth c ≠ 0

/-! ## What stands behind a character -/

/-- What a text begins with, as far as a character before it may join it. -/
inductive Begin where
  /-- Nothing that joins. -/
  | plain
  /-- A letter that may join others. -/
  | letter (l : Ligature)
  /-- A picture. -/
  | picture (p : Picture)
deriving DecidableEq, Repr, Inhabited

namespace Begin

/-- The start of a text with this first character, which joins nothing behind it. -/
def ofChar (c : Char) : Begin :=
  match Picture.ofChar? c, Ligature.ofChar? c with
  | some p, _ => .picture p
  | none, some l => .letter l
  | none, none => .plain

/-- A letter, and no picture: a selector that selects nothing leaves only letters to be joined. -/
def withoutPicture : Begin → Begin
  | .letter l => .letter l
  | _ => .plain

/-- What remains to be joined behind a selector for pictures. -/
def behindPictureSelector : Begin → Begin
  | .picture p => if p.keepsSelector then .picture p else .plain
  | b => b

/-- The picture is added to one before it. -/
def isJoined : Begin → Bool
  | .picture p => p.keepsSelector
  | _ => false

/-- The places that a character takes before the text, and what the two begin with, if they
join. -/
def join? (b : Begin) (c : Char) : Option (Int × Begin) :=
  match b with
  | .plain => none
  | .letter l => (l.join? c).map fun r => (r.1, r.2.elim .plain .letter)
  | .picture p => (p.join? c).map fun r => (r.1, .picture r.2)

end Begin

/-- What a selector asks for. -/
inductive Selector where
  | picture
  | text
deriving DecidableEq, Repr, Inhabited

namespace Selector

/-- The selectors. -/
def ofChar? (c : Char) : Option Selector :=
  if c = '\uFE0F' then some .picture else if c = '\uFE0E' then some .text else none

end Selector

/-- What a text begins with, and the selector in front of it. -/
structure Behind where
  start : Begin := .plain
  selector : Option Selector := none
deriving DecidableEq, Repr, Inhabited

namespace Behind

/-- What the text begins with, once the selector has met a character that it does not concern. -/
def unselected (b : Behind) : Begin := if b.selector.isNone then b.start else b.start.withoutPicture

end Behind

/-- The selector before a text. -/
def select (selector : Selector) (start : Begin) : Behind :=
  match selector with
  | .picture => ⟨start.behindPictureSelector, some .picture⟩
  | .text => ⟨start.withoutPicture, some .text⟩

/-- A character before a text without selector. -/
def stepUnselected (c : Char) (start : Begin) : Int × Behind :=
  if c.toNat ≤ 0xA0 then (1, {})
  else match Selector.ofChar? c with
    | some s => (0, select s start)
    | none =>
      match start.join? c with
      | some r => (r.1, ⟨r.2, none⟩)
      | none => (charWidth c, ⟨.ofChar c, none⟩)

/-- The places that a character adds before a text, and what the two are for the character before
them. -/
def step (c : Char) (b : Behind) : Int × Behind :=
  if b.selector = some .picture && isSelectable c then
    (if b.start.isJoined then 0 else 2, ⟨.picture .whole, none⟩)
  else if b.selector = some .text && hasNarrowForm c then (1, {})
  else stepUnselected c b.unselected

/-! ## Lines -/

/-- The places that a line takes, and what it begins with. -/
def measure (cs : List Char) : Int × Behind :=
  cs.foldr (fun c r => let s := step c r.2; (s.1 + r.1, s.2)) (0, {})

/-- The places that a line takes, with the characters that only set a colour. -/
def places (cs : List Char) : Nat := (measure cs).1.toNat

/-- Where a colour is being set. -/
inductive ColourState where
  | outside
  | escape
  | bracket
deriving DecidableEq, Repr, Inhabited

/-- The number of characters that only set a colour, and would be shown elsewhere: the bracket
behind an escape character, and all that follow up to the next `m`. -/
def colourChars (state : ColourState) : List Char → Nat
  | [] => 0
  | c :: rest =>
    let shown := if isShown c then 1 else 0
    match state with
    | .outside => colourChars (if c = '\x1b' then .escape else .outside) rest
    | .escape => if c = '[' then shown + colourChars .bracket rest else colourChars .outside rest
    | .bracket => shown + colourChars (if c = 'm' then .outside else .bracket) rest

/-- The places that a line takes. -/
def width (s : String) : Nat := places s.toList - colourChars .outside s.toList

/-- The line, filled up with spaces to a width. -/
def padded (width : Nat) (s : String) : String :=
  s ++ .ofList (List.replicate (width - Text.width s) ' ')

end DocSearch.Text
