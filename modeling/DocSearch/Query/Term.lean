import DocSearch.Binary64.Decimal
import DocSearch.Calendar
import DocSearch.Query.Basic
import DocSearch.Text.Blank
import DocSearch.Text.Lower
/-!
# Terms of a query text

The text of a query is a row of tokens between blanks. A token that starts with a key and goes on
behind it is a keyed term, any other token is free text.

* `Key` — the keys, with their spellings.
* `Key.value?` — what stands behind the key in a token. The key is looked for in the lowercase of
  the token, the value is cut out of the token itself.
* `Term` — what a token says, and `Term.ofToken`.
* `bytes?` — the size written as `10`, `10k`, `1.5M` or `2gb`.
* `period?` — the bounds of `today`, `yesterday`, `thisweek`, `thismonth` and `thisyear`.
-/

namespace DocSearch

/-- The keys of a query text. -/
inductive Key where
  | name
  | author
  | source
  | notTags
  | tags
  | atLeast
  | atMost
  | updated
  | visibility
deriving DecidableEq, Repr, Inhabited

namespace Key

/-- The spellings of a key, in lowercase. -/
def spellings : Key → List String
  | name => ["filename:", "name:"]
  | author => ["author:"]
  | source => ["source:"]
  | notTags => ["!tags:", "-tags:"]
  | tags => ["tags:"]
  | atLeast => ["size>"]
  | atMost => ["size<"]
  | updated => ["when:"]
  | visibility => ["show:"]

/-- All keys, in the order in which they are looked for. -/
def all : List Key :=
  [name, author, source, notTags, tags, atLeast, atMost, updated, visibility]

/-- The characters behind the first `n` bytes, if these end between two characters. -/
def behindBytes? : Nat → List Char → Option (List Char)
  | 0, cs => some cs
  | _ + 1, [] => none
  | n + 1, c :: cs => if c.utf8Size ≤ n + 1 then behindBytes? (n + 1 - c.utf8Size) cs else none

/-- The lowercase of the token starts with the spelling. -/
def startsWith (token spelling : String) : Bool :=
  spelling.toList.isPrefixOf (Text.lowerChars token.toList)

/-- What stands behind the key in a token, if it does and is not empty. -/
def value? (k : Key) (token : String) : Option String :=
  (k.spellings.find? (startsWith token)).bind fun spelling =>
    ((behindBytes? spelling.utf8ByteSize token.toList).filter (!·.isEmpty)).map .ofList

/-- The key of a token and what stands behind it. -/
def ofToken? (token : String) : Option (Key × String) :=
  all.findSome? fun k => (k.value? token).map fun v => (k, v)

end Key

/-! ## Sizes and periods -/

/-- The text less one character at its end. -/
def lessLast? (c : Char) (cs : List Char) : Option (List Char) :=
  if cs.getLast? = some c then some cs.dropLast else none

/-- How many powers of two the unit at the end of a size stands for. -/
def unitPower : Char → Nat
  | 'k' => 10
  | 'm' => 20
  | 'g' => 30
  | _ => 0

/-- The number of bytes that a size says, rounded to whole ones, a half upwards, and kept within an
unsigned word. One `b` at the end is passed over. -/
def bytes? (value : String) : Option Nat := do
  let cs := Text.lowerChars (Text.trimChars value.toList)
  let cs := (lessLast? 'b' cs).getD cs
  let unit := unitPower (← cs.getLast?)
  let x ← Binary64.read? (if unit = 0 then cs else cs.dropLast)
  if x.isFinite && (!x.isNegative || x.word = 0) then
    some (min (x.roundScaled unit) (Text.wordBound - 1))
  else none

/-- The bounds of a period, seen from `today`. -/
def period? (today : Day) (value : String) : Option TimeRange :=
  match Text.lower value with
  | "today" => some { gte := today.start.render }
  | "yesterday" =>
    some { gte := (today.plus (-1)).start.render, lte := (today.start.before 1).render }
  | "thisweek" => some { gte := today.monday.start.render }
  | "thismonth" => some { gte := today.firstOfMonth.start.render }
  | "thisyear" => some { gte := today.firstOfYear.start.render }
  | _ => none

/-- Which files are shown. -/
inductive Visibility where
  | removed
  | all
deriving DecidableEq, Repr, Inhabited

/-- The word for a visibility, in any case. -/
def Visibility.ofText? (value : String) : Option Visibility :=
  match Text.lower value with
  | "removed" => some .removed
  | "all" => some .all
  | _ => none

/-! ## Terms -/

/-- What a token says. A size, period or visibility that cannot be read says nothing. -/
inductive Term where
  | name (value : String)
  | author (value : String)
  | source (items : List String)
  | notTags (items : List String)
  | tags (items : List String)
  | atLeast (bytes : Option Nat)
  | atMost (bytes : Option Nat)
  | updated (range : Option TimeRange)
  | visibility (which : Option Visibility)
  | free (token : String)
deriving DecidableEq, Repr, Inhabited

namespace Term

/-- What the value of a key says. -/
def ofValue (today : Day) (value : String) : Key → Term
  | .name => name value
  | .author => author value
  | .source => source (Text.commaPieces value)
  | .notTags => notTags ((Text.commaPieces value).map Text.lower)
  | .tags => tags ((Text.commaPieces value).map Text.lower)
  | .atLeast => atLeast (bytes? value)
  | .atMost => atMost (bytes? value)
  | .updated => updated (period? today value)
  | .visibility => visibility (Visibility.ofText? value)

/-- What a token says. -/
def ofToken (today : Day) (token : String) : Term :=
  match Key.ofToken? token with
  | some (key, value) => ofValue today value key
  | none => free token

end Term

end DocSearch
