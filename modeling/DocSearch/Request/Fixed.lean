import DocSearch.Request.Compile
/-!
# Requests about the whole index

* `SearchRequest.tagCounts` — one page of the counts of all tags; the walk goes on behind the last
  key of the page before.
* `SearchRequest.dashboard` — the aggregations that `Dashboard` shows.
* `SearchRequest.processing` — the volume by hour, day and month, newest first.
-/

namespace DocSearch.SearchRequest

/-- Counts on one page of tags. -/
def tagPageSize : Nat := 1000

/-- Aggregations over all documents, without hits. -/
def overall (aggregations : Json) : SearchRequest where
  offset := 0
  size := 0
  aggregations := some aggregations

/-- The page of tags behind the key `after`, or the first one. -/
def tagCounts (after : Option Json) : SearchRequest :=
  overall (.obj [("tags", .obj [
    ("aggs", .obj [("tags", .obj [("composite", .obj (
      Json.fieldOf "after" after ++ [
        ("size", .nat tagPageSize),
        ("sources", .arr [
          .obj [("name", termsOf "tags.name")],
          .obj [("type", termsOf "tags.type")]])]))])]),
    ("nested", .obj [("path", .str "tags")])])])

/-- Types of contents, files by day and source, and the total volume. -/
def dashboard : SearchRequest :=
  overall (.obj [
    ("content_type", .obj [
      ("aggs", .obj [("size", statsOf "content.size")]),
      ("terms", .obj [("field", .str "content.type")])]),
    ("proc_rate", .obj [
      ("aggs", .obj [("source", termsOf "meta.source_id")]),
      ("date_histogram", .obj [
        ("calendar_interval", .str "day"),
        ("field", .str "indexed_datetime")])]),
    ("proc_total", statsOf "content.size")])

/-- Files and volume by an interval, its name written in a format. -/
def histogram (interval format : String) : Json :=
  .obj [
    ("aggs", .obj [("size", .obj [("sum", .obj [("field", .str "content.size")])])]),
    ("date_histogram", .obj [
      ("calendar_interval", .str interval),
      ("field", .str "indexed_datetime"),
      ("format", .str format),
      ("order", .obj [("_key", .str "desc")])])]

/-- Files and volume by hour, day and month. -/
def processing : SearchRequest :=
  overall (.obj [
    ("days", histogram "day" "dd.MM.yyyy"),
    ("hours", histogram "hour" "HH dd.MM.yyyy"),
    ("months", histogram "month" "MM.yyyy")])

end DocSearch.SearchRequest
