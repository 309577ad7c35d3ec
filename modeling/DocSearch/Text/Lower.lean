import DocSearch.Text.CaseTable
import DocSearch.Text.Range
/-!
# Lowercase

* `Text.lowerChar` — the simple lowercase mapping of one character.
* `Text.lower` — the full mapping of a text. Two characters need more than the simple mapping: the
  dotted capital I becomes two characters, and the capital sigma becomes the final sigma where it
  ends a word (`Text.endsWord`).
-/

namespace DocSearch.Text

/-- The lowercase of a character that has a single one, other characters unchanged. -/
def lowerChar (c : Char) : Char :=
  if c.toNat < 0x80 then c.toLower
  else
    match lowerRuns.find? (·.contains c.toNat) with
    | some r => Char.ofNat (c.toNat + r.shift).toNat
    | none => c

/-- A character with case. -/
def isCased (c : Char) : Bool := casedRanges.any (inRange c.toNat)

/-- A character that is passed over when the case of its neighbours is looked at. -/
def isCaseIgnorable (c : Char) : Bool := caseIgnorableRanges.any (inRange c.toNat)

/-- The first character that is not passed over has case. -/
def meetsCased (cs : List Char) : Bool :=
  match cs.dropWhile isCaseIgnorable with
  | [] => false
  | c :: _ => isCased c

/-- A letter stands before this place and none after it. `before` is read backwards. -/
def endsWord (before after : List Char) : Bool := meetsCased before && !meetsCased after

/-- The lowercase of one character between its neighbours. -/
def lowerAt (before : List Char) (c : Char) (after : List Char) : List Char :=
  if c = 'İ' then ['i', '\u0307']
  else if c = 'Σ' then [if endsWord before after then 'ς' else 'σ']
  else [lowerChar c]

/-- Lowercase of the characters that follow `before`, which is read backwards. -/
def lowerFrom (before : List Char) : List Char → List Char
  | [] => []
  | c :: cs => lowerAt before c cs ++ lowerFrom (c :: before) cs

/-- Lowercase of a list of characters. -/
def lowerChars (cs : List Char) : List Char := lowerFrom [] cs

/-- The text in lowercase. -/
def lower (s : String) : String := .ofList (lowerChars s.toList)

end DocSearch.Text
