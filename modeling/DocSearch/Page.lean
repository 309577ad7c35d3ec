import DocSearch.File
/-!
# Pages of hits

* `Page` — a number of page and a size, and `Page.parse`, which takes only pages inside the window
  of results that the backend can reach.
* `Page.cut` — the hits of a page out of two ranked lists, and `rankedHits`, the whole ranking.
* `requiredText` — the text of a query that must not be missing.
-/

namespace DocSearch

/-- A page: its number, how many hits it has, and how many come before it. -/
structure Page where
  number : Nat
  size : Nat
  offset : Nat
deriving DecidableEq, Repr, Inhabited

namespace Page

/-- The page shown unless told otherwise. -/
def defaultNumber : Nat := 0

/-- The size of pages unless told otherwise. -/
def defaultSize : Nat := 10

/-- Pages have at most this many hits. -/
def maxSize : Nat := 200

/-- The backend shows no hits behind this one. -/
def resultWindow : Nat := 10000

/-- How many hits come before a page, if it ends inside the window. Neither the product nor the sum may
overflow a word. -/
def offset? (number size : Nat) : Option Nat := do
  let offset ← Text.inWord? (number * size)
  let stop ← Text.inWord? (offset + size)
  if stop ≤ resultWindow then some offset else none

/-- The page of a number and a size given as texts. An unreadable number is found first, then an
unreadable or unsuitable size, last a page outside the window. -/
def parse (number size : Option String) : Except ValidationError Page := do
  let number ← match number with
    | none => pure defaultNumber
    | some s => (Text.natural? (Text.trim s)).elim (throw .invalidPage) pure
  let size ← match size with
    | none => pure defaultSize
    | some s => (Text.natural? (Text.trim s)).elim (throw .invalidSize) pure
  if size < 1 ∨ maxSize < size then throw .invalidSize
  let offset ← (offset? number size).elim (throw .invalidPage) pure
  return ⟨number, size, offset⟩

/-- How many of the best hits a ranking must know to show the page. -/
def depth (p : Page) : Nat := p.offset + p.size

end Page

/-- The place of a hit in a ranking; no score counts as zero. -/
def FileHit.rank (h : FileHit) : Int := (h.score.getD .zero).orderKey

/-- The hits of two lists by falling score; of equal ones those of the first list come first. -/
def rankedHits (first second : List FileHit) : List FileHit :=
  (first ++ second).mergeSort fun a b => b.rank ≤ a.rank

/-- The number of all hits, and those of the page. -/
def Page.cut (p : Page) (first second : SearchAnswer) : Nat × List FileHit :=
  (first.total + second.total, ((rankedHits first.hits second.hits).drop p.offset).take p.size)

/-- The trimmed text, which must not be missing or blank. -/
def requiredText (text : Option String) : Except ValidationError String :=
  match text.bind Text.nonBlank? with
  | some s => .ok s
  | none => .error .emptyQuery

end DocSearch
