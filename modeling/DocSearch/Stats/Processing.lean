import DocSearch.Stats.Dashboard
/-!
# The processed volume

* `Period` — an hour, day or month with its files and their volume.
* `Processing` — the periods of the three kinds, each read on its own, so that one that cannot be
  read leaves the others alone.
-/

namespace DocSearch

/-- A period of time with its files and their volume. -/
structure Period where
  name : String
  files : Nat
  bytes : Binary64
deriving DecidableEq, Repr, Inhabited

namespace Period

/-- Reads the sum of an aggregation. -/
def readSum : Reader (Option Binary64) := fun f => do
  let r ← f.record? ["value"]
  r.optional "value" Reader.real

/-- Reads a period; everything may be missing. -/
def read : Reader Period := fun f => do
  let r ← f.record? ["key_as_string", "doc_count", "size"]
  let name ← r.defaulted "key_as_string" none (Reader.nullable Reader.text)
  let files ← r.defaulted "doc_count" 0 Reader.word
  let sum ← r.optional "size" readSum
  return ⟨name.getD "", files, (sum.bind id).getD .zero⟩

/-- A period as JSON. -/
def toJson (p : Period) : Json :=
  .obj [("filesCount", .nat p.files), ("period", .str p.name), ("sizeInBytes", .real p.bytes)]

end Period

/-- The volume by hour, day and month. -/
structure Processing where
  hours : List Period
  days : List Period
  months : List Period
deriving DecidableEq, Repr, Inhabited

namespace Processing

/-- The periods of one aggregation, none when it cannot be read. -/
def series (aggregations : Json) (name : String) : List Period :=
  (readBuckets Period.read (aggregations.field name).toForm).getD []

/-- The volume that some aggregations tell. -/
def project (aggregations : Json) : Processing :=
  ⟨series aggregations "hours", series aggregations "days", series aggregations "months"⟩

/-- The volume as JSON. -/
def toJson (p : Processing) : Json :=
  .obj [
    ("days", .arr (p.days.map Period.toJson)),
    ("hours", .arr (p.hours.map Period.toJson)),
    ("months", .arr (p.months.map Period.toJson))]

end Processing

end DocSearch
