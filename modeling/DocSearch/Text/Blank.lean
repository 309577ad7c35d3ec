/-!
# Blank characters

* `Text.isBlank` — the property `White_Space` of Unicode, 25 characters.
* `Text.trim` — a text without the blanks at its two ends.
* `Text.words` — the longest runs of characters that are not blank.
* `Text.commaPieces` — the trimmed pieces between commas that are not empty.
-/

namespace DocSearch.Text

/-- The property `White_Space`. -/
def isBlank (c : Char) : Bool :=
  let n := c.toNat
  (0x09 ≤ n && n ≤ 0x0D) || n == 0x20 || n == 0x85 || n == 0xA0 || n == 0x1680 ||
    (0x2000 ≤ n && n ≤ 0x200A) || n == 0x2028 || n == 0x2029 || n == 0x202F || n == 0x205F ||
    n == 0x3000

/-- Drops what satisfies `p` at the end of a list. -/
def dropEnd (p : Char → Bool) (cs : List Char) : List Char := (cs.reverse.dropWhile p).reverse

/-- Drops the blanks at both ends. -/
def trimChars (cs : List Char) : List Char := dropEnd isBlank (cs.dropWhile isBlank)

/-- The text without the blanks at its two ends. -/
def trim (s : String) : String := .ofList (trimChars s.toList)

/-- The trimmed text, absent when nothing is left of it. -/
def nonBlank? (s : String) : Option String :=
  if trim s = "" then none else some (trim s)

/-- The runs of characters between blanks, none of them empty. -/
def words (s : String) : List String :=
  ((s.toList.splitOnP isBlank).filter (!·.isEmpty)).map .ofList

/-- The trimmed pieces between commas, less the empty ones. -/
def commaPieces (s : String) : List String :=
  (((s.toList.splitOnP (· == ',')).map trimChars).filter (!·.isEmpty)).map .ofList

end DocSearch.Text
