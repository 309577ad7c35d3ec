import DocSearch.Binary64.Basic
import DocSearch.Calendar
import DocSearch.Json.Reader
/-!
# The dashboard

* `Aggregations` — the buckets that the search backend counted: types of contents, files by day and
  source, and statistics of sizes. `Aggregations.ofJson` reads them, all or nothing.
* `Dashboard` — what is shown: the types with their share, and for each of the last 30 days the
  number of files of every source.
* `Dashboard.project` — the dashboard of some aggregations on a day.
-/

namespace DocSearch

/-! ## What the backend counted -/

/-- A key with a number of documents. -/
structure KeyCount where
  key : String
  count : Nat
deriving DecidableEq, Repr, Inhabited

/-- A type of content with its number of documents and their sizes. -/
structure TypeBucket where
  key : String
  count : Nat
  sizes : Json
deriving Repr, Inhabited

/-- A day, by one of its milliseconds, with the documents of each source. -/
structure DayBucket where
  key : Int
  sources : List KeyCount
deriving DecidableEq, Repr, Inhabited

/-- Statistics of sizes. -/
structure SizeStats where
  count : Nat := 0
  sum : Option Binary64 := none
  avg : Option Binary64 := none
  min : Option Binary64 := none
  max : Option Binary64 := none
deriving DecidableEq, Repr, Inhabited

/-- The aggregations behind a dashboard. -/
structure Aggregations where
  types : List TypeBucket := []
  days : List DayBucket := []
  total : SizeStats := {}
deriving Repr, Inhabited

/-- Reads the list of buckets of an aggregation, empty when it is missing. -/
def readBuckets {α : Type} (read : Reader α) : Reader (List α) := fun f => do
  let r ← f.record? ["buckets"]
  r.defaulted "buckets" [] (Reader.list read)

namespace KeyCount

/-- Reads a key with its number of documents. -/
def read : Reader KeyCount := fun f => do
  let r ← f.record? ["key", "doc_count"]
  return ⟨← r.required "key" Reader.text, ← r.defaulted "doc_count" 0 Reader.word⟩

end KeyCount

namespace TypeBucket

/-- Reads a type of content. -/
def read : Reader TypeBucket := fun f => do
  let r ← f.record? ["key", "doc_count", "size"]
  return ⟨← r.required "key" Reader.text, ← r.defaulted "doc_count" 0 Reader.word,
    ← r.defaulted "size" .null Reader.value⟩

end TypeBucket

namespace DayBucket

/-- Reads a day. -/
def read : Reader DayBucket := fun f => do
  let r ← f.record? ["key", "source"]
  return ⟨← r.required "key" Reader.integer,
    ← r.defaulted "source" [] (readBuckets KeyCount.read)⟩

/-- The day of a bucket. -/
def day (b : DayBucket) : Day := (⟨b.key⟩ : Instant).day

end DayBucket

namespace SizeStats

/-- Reads statistics of sizes. -/
def read : Reader SizeStats := fun f => do
  let r ← f.record? ["count", "sum", "avg", "min", "max"]
  return {
    count := ← r.defaulted "count" 0 Reader.word
    sum := ← r.optional "sum" Reader.real
    avg := ← r.optional "avg" Reader.real
    min := ← r.optional "min" Reader.real
    max := ← r.optional "max" Reader.real }

end SizeStats

namespace Aggregations

/-- Reads the aggregations. -/
def read : Reader Aggregations := fun f => do
  let r ← f.record? ["content_type", "proc_rate", "proc_total"]
  return {
    types := ← r.defaulted "content_type" [] (readBuckets TypeBucket.read)
    days := ← r.defaulted "proc_rate" [] (readBuckets DayBucket.read)
    total := ← r.defaulted "proc_total" {} SizeStats.read }

/-- The aggregations of an answer; those that cannot be read count as none at all. -/
def ofJson (j : Json) : Aggregations := (read j.toForm).getD {}

end Aggregations

/-! ## What is shown -/

/-- The files of each source on one day, in the order of the names. -/
structure DayEntry where
  day : Day
  counts : List (String × Nat)
deriving DecidableEq, Repr, Inhabited

/-- The dashboard. -/
structure Dashboard where
  types : List TypeBucket
  days : List DayEntry
  names : List String
  total : SizeStats
deriving Repr, Inhabited

/-- The name under which the date of a day is shown; a source of that name is left out. -/
def dateField : String := "date"

/-- The days shown. -/
def daySpan : Nat := 30

/-- The names of a list, each at its first place. -/
def firstSeen (names : List String) : List String :=
  names.foldl (fun acc n => if n ∈ acc then acc else acc ++ [n]) []

/-- The sources of all buckets. -/
def sourceNames (buckets : List DayBucket) : List String :=
  firstSeen ((buckets.flatMap fun b => b.sources.map (·.key)).filter (· ≠ dateField))

/-- The files of a source in a bucket. -/
def DayBucket.countOf (b : DayBucket) (name : String) : Nat :=
  ((b.sources.find? (·.key = name)).map (·.count)).getD 0

/-- The files of each source on a day, taken from the first bucket of that day. -/
def dayEntry (buckets : List DayBucket) (names : List String) (day : Day) : DayEntry :=
  let bucket? := buckets.find? (·.day = day)
  ⟨day, orderFields (names.map fun n => (n, (bucket?.map (·.countOf n)).getD 0))⟩

/-- The days up to `today`, the earliest first. -/
def daysUpTo (today : Day) : List Day :=
  (List.range daySpan).map fun (n : Nat) => today.plus (n - (daySpan - 1 : Nat))

namespace Dashboard

/-- The dashboard of some aggregations on a day. -/
def project (a : Aggregations) (today : Day) : Dashboard :=
  let names := sourceNames a.days
  { types := a.types
    days := (daysUpTo today).map (dayEntry a.days names)
    names := names
    total := a.total }

/-- The number of documents of all types. -/
def typeTotal (d : Dashboard) : Nat := d.types.foldl (fun n b => n + b.count) 0

/-- Types with a smaller share than five per cent are not named. -/
def minThreshold (d : Dashboard) : Binary64 :=
  (Binary64.nearest false 5 100).mul (.ofNat d.typeTotal)

/-- A type as JSON. -/
def typeJson (b : TypeBucket) : Json :=
  .obj [("name", .str b.key), ("sizeDataInBytes", b.sizes), ("value", .nat b.count)]

/-- A day as JSON: its date among the counts. -/
def dayJson (e : DayEntry) : Json :=
  .obj (putField dateField (.str e.day.render) (e.counts.map fun c => (c.1, .nat c.2)))

/-- The sizes as JSON. -/
def totalJson (s : SizeStats) : Json :=
  .obj [
    ("sizeDataInBytes", .obj [
      ("avg", .ofOption .real s.avg),
      ("max", .ofOption .real s.max),
      ("min", .ofOption .real s.min),
      ("sum", .ofOption .real s.sum)]),
    ("totalCount", .nat s.count)]

/-- The dashboard as JSON. -/
def toJson (d : Dashboard) : Json :=
  .obj [
    ("contentType", .obj [
      ("data", .arr (d.types.map typeJson)),
      ("minThreshold", .real d.minThreshold),
      ("total", .nat d.typeTotal)]),
    ("procRate", .obj [
      ("data", .arr (d.days.map dayJson)),
      ("names", .texts d.names)]),
    ("procTotal", totalJson d.total)]

end Dashboard

end DocSearch
