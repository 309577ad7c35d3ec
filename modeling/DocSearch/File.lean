import DocSearch.Tag
/-!
# Files as the search backend returns them

* `FileMeta`, `ContentInfo`, `FileHit` — one indexed file.
* `SearchAnswer` — the answer to a search request: how many files match, some of them, and the
  aggregations asked for.

Each has a reader and a JSON form.
-/

namespace DocSearch

/-- Where a file lies and how it is called. -/
structure FileMeta where
  id : String := ""
  shortName : String := ""
  fullName : String := ""
  sourceId : String := ""
  extension : String := ""
  created : Option String := none
  updated : Option String := none
  downloadUri : Option String := none
deriving DecidableEq, Repr, Inhabited

namespace FileMeta

/-- Reads the data of a file; names may be missing. -/
def read : Reader FileMeta := fun f => do
  let r ← f.record? ["id", "short_name", "full_name", "source_id", "extension",
    "created_datetime", "updated_datetime", "download_uri"]
  return {
    id := ← r.defaulted "id" "" Reader.text
    shortName := ← r.defaulted "short_name" "" Reader.text
    fullName := ← r.defaulted "full_name" "" Reader.text
    sourceId := ← r.defaulted "source_id" "" Reader.text
    extension := ← r.defaulted "extension" "" Reader.text
    created := ← r.optional "created_datetime" Reader.text
    updated := ← r.optional "updated_datetime" Reader.text
    downloadUri := ← r.defaulted "download_uri" none (Reader.nullable Reader.text) }

/-- All fields; an absent download address is left out. -/
def toJson (m : FileMeta) : Json :=
  .obj ([("created_datetime", .ofText? m.created)] ++
    Json.fieldOf "download_uri" (m.downloadUri.map .str) ++ [
    ("extension", .str m.extension),
    ("full_name", .str m.fullName),
    ("id", .str m.id),
    ("short_name", .str m.shortName),
    ("source_id", .str m.sourceId),
    ("updated_datetime", .ofText? m.updated)])

end FileMeta

/-- Fragments by field. -/
abbrev Fragments := List (String × List String)

namespace Fragments

/-- Reads an object of lists of texts. -/
def read : Reader Fragments := Reader.table (Reader.list Reader.text)

/-- An object of lists of texts. -/
def toJson (h : Fragments) : Json := .obj (h.map fun f => (f.1, .texts f.2))

end Fragments

/-- What is known about the content of a file. -/
structure ContentInfo where
  size : Nat := 0
  type : Option String := none
  state : Option String := none
  author : Option String := none
  thumbAvailable : Option Bool := none
  highlight : Option Fragments := none
deriving DecidableEq, Repr, Inhabited

namespace ContentInfo

/-- Reads what is known about a content; the size may be missing. -/
def read : Reader ContentInfo := fun f => do
  let r ← f.record? ["size", "type", "state", "author", "thumb_available", "highlight"]
  return {
    size := ← r.defaulted "size" 0 Reader.word
    type := ← r.optional "type" Reader.text
    state := ← r.optional "state" Reader.text
    author := ← r.optional "author" Reader.text
    thumbAvailable := ← r.optional "thumb_available" Reader.bool
    highlight := ← r.defaulted "highlight" none (Reader.nullable Fragments.read) }

/-- All fields; absent fragments are left out. -/
def toJson (c : ContentInfo) : Json :=
  .obj ([("author", .ofText? c.author)] ++
    Json.fieldOf "highlight" (c.highlight.map Fragments.toJson) ++ [
    ("size", .nat c.size),
    ("state", .ofText? c.state),
    ("thumb_available", .ofOption .bool c.thumbAvailable),
    ("type", .ofText? c.type)])

end ContentInfo

/-- One indexed file. -/
structure FileHit where
  fileId : String
  sha256 : Option String := none
  info : FileMeta := {}
  content : ContentInfo := {}
  tags : List Tag := []
  hidden : Bool := false
  score : Option Binary64 := none
deriving DecidableEq, Repr, Inhabited

namespace FileHit

/-- Reads a file; only its id must be there. -/
def read : Reader FileHit := fun f => do
  let r ← f.record? ["file_id", "sha256", "meta", "content", "tags", "hidden", "score"]
  return {
    fileId := ← r.required "file_id" Reader.text
    sha256 := ← r.optional "sha256" Reader.text
    info := ← r.defaulted "meta" {} FileMeta.read
    content := ← r.defaulted "content" {} ContentInfo.read
    tags := ← r.defaulted "tags" [] (Reader.list Tag.read)
    hidden := ← r.defaulted "hidden" false Reader.bool
    score := ← r.defaulted "score" none (Reader.nullable Reader.real) }

/-- All fields; an absent score is left out. -/
def toJson (h : FileHit) : Json :=
  .obj ([
    ("content", h.content.toJson),
    ("file_id", .str h.fileId),
    ("hidden", .bool h.hidden),
    ("meta", h.info.toJson)] ++
    Json.fieldOf "score" (h.score.map .real) ++ [
    ("sha256", .ofText? h.sha256),
    ("tags", .arr (h.tags.map Tag.toJson))])

end FileHit

/-- The answer to a search request. -/
structure SearchAnswer where
  total : Nat := 0
  hits : List FileHit := []
  aggregations : Json := .null
deriving Repr, Inhabited

namespace SearchAnswer

/-- Reads an answer; the aggregations may be missing. -/
def read : Reader SearchAnswer := fun f => do
  let r ← f.record? ["total", "hits", "aggregations"]
  return {
    total := ← r.required "total" Reader.word
    hits := ← r.required "hits" (Reader.list FileHit.read)
    aggregations := ← r.defaulted "aggregations" .null Reader.value }

/-- All fields; `null` aggregations are left out. -/
def toJson (a : SearchAnswer) : Json :=
  .obj (
    (if a.aggregations.isNull then [] else [("aggregations", a.aggregations)]) ++ [
    ("hits", .arr (a.hits.map FileHit.toJson)),
    ("total", .nat a.total)])

end SearchAnswer

end DocSearch
