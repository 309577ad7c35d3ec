import DocSearch.Json.Reader
/-!
# Queries

* `Query` — what a user asks for. A part that is absent, blank or empty asks for nothing.
* `Query.toJson`, `Query.read` — its JSON form, all fields written, read back with defaults.
-/

namespace DocSearch

/-- Bounds on a size in bytes, both included. -/
structure SizeRange where
  gte : Option Nat := none
  lte : Option Nat := none
deriving DecidableEq, Repr, Inhabited

/-- Bounds on a time, both included, as texts of one fixed form. -/
structure TimeRange where
  gte : Option String := none
  lte : Option String := none
deriving DecidableEq, Repr, Inhabited

/-- What a user asks for. -/
structure Query where
  content : Option String := none
  name : Option String := none
  author : Option String := none
  source : List String := []
  size : Option SizeRange := none
  updated : Option TimeRange := none
  tags : List String := []
  notTags : List String := []
  hiddenOnly : Bool := false
  visibleOnly : Bool := false
deriving DecidableEq, Repr, Inhabited

namespace SizeRange

/-- Both bounds, `null` for an absent one. -/
def toJson (r : SizeRange) : Json :=
  .obj [("gte", .ofOption .nat r.gte), ("lte", .ofOption .nat r.lte)]

/-- Reads both bounds. -/
def read : Reader SizeRange := fun f => do
  let r ← f.record? ["gte", "lte"]
  return ⟨← r.optional "gte" Reader.word, ← r.optional "lte" Reader.word⟩

end SizeRange

namespace TimeRange

/-- Both bounds, `null` for an absent one. -/
def toJson (r : TimeRange) : Json := .obj [("gte", .ofText? r.gte), ("lte", .ofText? r.lte)]

/-- Reads both bounds. -/
def read : Reader TimeRange := fun f => do
  let r ← f.record? ["gte", "lte"]
  return ⟨← r.optional "gte" Reader.text, ← r.optional "lte" Reader.text⟩

end TimeRange

namespace Query

/-- All fields, `null` for an absent one. -/
def toJson (q : Query) : Json :=
  .obj [
    ("author", .ofText? q.author),
    ("content", .ofText? q.content),
    ("hiddenOnly", .bool q.hiddenOnly),
    ("name", .ofText? q.name),
    ("notTags", .texts q.notTags),
    ("size", .ofOption SizeRange.toJson q.size),
    ("source", .texts q.source),
    ("tags", .texts q.tags),
    ("visibleOnly", .bool q.visibleOnly),
    ("when", .ofOption TimeRange.toJson q.updated)]

/-- Reads a query; lists and flags may be missing. -/
def read : Reader Query := fun f => do
  let r ← f.record? ["content", "name", "author", "source", "size", "when", "tags", "notTags",
    "hiddenOnly", "visibleOnly"]
  return {
    content := ← r.optional "content" Reader.text
    name := ← r.optional "name" Reader.text
    author := ← r.optional "author" Reader.text
    source := ← r.defaulted "source" [] (Reader.list Reader.text)
    size := ← r.optional "size" SizeRange.read
    updated := ← r.optional "when" TimeRange.read
    tags := ← r.defaulted "tags" [] (Reader.list Reader.text)
    notTags := ← r.defaulted "notTags" [] (Reader.list Reader.text)
    hiddenOnly := ← r.defaulted "hiddenOnly" false Reader.bool
    visibleOnly := ← r.defaulted "visibleOnly" false Reader.bool }

end Query

end DocSearch
