import DocSearch.Tag
/-!
# One page of tag counts

The backend counts the tags of all files a page at a time.

* `TagPage.ofJson` — the counts of a page, the number of its buckets, and the key behind which the
  next page starts. Buckets without a name, a known type or files are passed over, but they count
  for the length of the page.
-/

namespace DocSearch

/-- One page of tag counts. -/
structure TagPage where
  entries : List TagCount := []
  buckets : Nat := 0
  afterKey : Option Json := none
deriving Repr, Inhabited

namespace TagPage

/-- The count of one bucket. -/
def entry? (bucket : Json) : Option TagCount := do
  let key := bucket.field "key"
  let name ← (key.field "name").text?
  let type ← (TagType.parse (← (key.field "type").text?)).toOption
  let files ← (bucket.field "doc_count").word?
  if files = 0 ∨ name = "" then none else some ⟨name, type, files⟩

/-- The page in some aggregations, empty where there is none. -/
def ofJson (aggregations : Json) : TagPage :=
  let composite := (aggregations.field "tags").field "tags"
  match (composite.field "buckets").items? with
  | none => {}
  | some buckets => {
      entries := buckets.filterMap entry?
      buckets := buckets.length
      afterKey := (composite.field? "after_key").filter (!·.isNull) }

/-- The page as JSON. -/
def toJson (p : TagPage) : Json :=
  .obj [
    ("after_key", p.afterKey.getD .null),
    ("bucket_count", .nat p.buckets),
    ("entries", .arr (p.entries.map TagCount.toJson))]

end TagPage

end DocSearch
