import DocSearch.Query.Term
/-!
# Reading the text of a query

* `Query.accept` — takes one keyed term into a query: the last name, author, bound, period and
  visibility stays, lists grow.
* `Query.freeText?` — the free tokens with single spaces between them; a lone `*` asks for
  everything and so for nothing.
* `Query.parse` — the query of a text, periods seen from an instant.
-/

namespace DocSearch.Query

/-- The query with one more term. -/
def accept (q : Query) : Term → Query
  | .name value => { q with name := some value }
  | .author value => { q with author := some value }
  | .source items => { q with source := q.source ++ items }
  | .notTags items => { q with notTags := q.notTags ++ items }
  | .tags items => { q with tags := q.tags ++ items }
  | .atLeast (some n) => { q with size := some { q.size.getD {} with gte := some n } }
  | .atMost (some n) => { q with size := some { q.size.getD {} with lte := some n } }
  | .updated (some range) => { q with updated := some range }
  | .visibility (some .removed) => { q with hiddenOnly := true, visibleOnly := false }
  | .visibility (some .all) => { q with hiddenOnly := false, visibleOnly := false }
  | _ => q

/-- The token of free text. -/
def freeToken? : Term → Option String
  | .free token => some token
  | _ => none

/-- The free text of some terms. -/
def freeText? (terms : List Term) : Option String :=
  let text := String.intercalate " " (terms.filterMap freeToken?)
  if text = "" ∨ text = "*" then none else some text

/-- The query of some terms: visible files only, unless a term says otherwise. -/
def ofTerms (terms : List Term) : Query :=
  { terms.foldl accept { visibleOnly := true } with content := freeText? terms }

/-- The query of a text. -/
def parse (now : Instant) (text : String) : Query :=
  ofTerms ((Text.words text).map (Term.ofToken now.day))

end DocSearch.Query
