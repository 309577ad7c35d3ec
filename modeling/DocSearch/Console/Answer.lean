import DocSearch.Json.Reader
/-!
# What the console reads from the service

Only what is shown is read.

* `FoundPage`, `FoundFile` — a page of files.
* `TagRow` — a tag with its number of files; its type is any text.
* `Activity` — the files of each day by their source.
-/

namespace DocSearch

/-- A file as the console shows it. -/
structure FoundFile where
  id : String
  shortName : String
  fullName : String
  size : Nat
  tags : List String
deriving DecidableEq, Repr, Inhabited

namespace FoundFile

/-- Reads the short and the full name of a file. -/
def readNames : Reader (String × String) := fun f => do
  let r ← f.record? ["short_name", "full_name"]
  return (← r.required "short_name" Reader.text, ← r.required "full_name" Reader.text)

/-- Reads the size of a file, zero if it is missing. -/
def readSize : Reader Nat := fun f => do
  let r ← f.record? ["size"]
  r.defaulted "size" 0 Reader.word

/-- Reads the name of a tag. -/
def readTag : Reader String := fun f => do
  let r ← f.record? ["name"]
  r.required "name" Reader.text

/-- Reads a file. -/
def read : Reader FoundFile := fun f => do
  let r ← f.record? ["file_id", "meta", "content", "tags"]
  let id ← r.required "file_id" Reader.text
  let (shortName, fullName) ← r.required "meta" readNames
  let size ← r.required "content" readSize
  let tags ← r.defaulted "tags" [] (Reader.list readTag)
  return { id, shortName, fullName, size, tags }

end FoundFile

/-- A page of files. -/
structure FoundPage where
  total : Nat
  took : Nat
  hits : List FoundFile
deriving DecidableEq, Repr, Inhabited

/-- Reads a page of files. -/
def FoundPage.read : Reader FoundPage := fun f => do
  let r ← f.record? ["total", "took", "hits"]
  return ⟨← r.required "total" Reader.word, ← r.required "took" Reader.word,
    ← r.required "hits" (Reader.list FoundFile.read)⟩

/-- A tag with its number of files. -/
structure TagRow where
  name : String
  type : String
  files : Nat
deriving DecidableEq, Repr, Inhabited

namespace TagRow

/-- Reads a tag with its number of files. -/
def read : Reader TagRow := fun f => do
  let r ← f.record? ["name", "type", "filesCount"]
  return ⟨← r.required "name" Reader.text, ← r.required "type" Reader.text,
    ← r.required "filesCount" Reader.word⟩

/-- Reads a list of tags. -/
def readAll : Reader (List TagRow) := Reader.list read

/-- Reads the list of tags that follows a change. -/
def readChanged : Reader (List TagRow) := fun f => do
  let r ← f.record? ["tags"]
  r.required "tags" readAll

end TagRow

/-- The files of each day by their source. -/
structure Activity where
  total : Nat
  names : List String
  days : List (List (String × Json))
deriving Repr, Inhabited

namespace Activity

/-- Reads the days and the names of the sources. -/
def readDays : Reader (List (List (String × Json)) × List String) := fun f => do
  let r ← f.record? ["data", "names"]
  return (← r.required "data" (Reader.list (Reader.table Reader.value)),
    ← r.required "names" (Reader.list Reader.text))

/-- Reads the number of all files. -/
def readTotal : Reader Nat := fun f => do
  let r ← f.record? ["totalCount"]
  r.required "totalCount" Reader.word

/-- Reads all of it. -/
def read : Reader Activity := fun f => do
  let r ← f.record? ["procRate", "procTotal"]
  let (days, names) ← r.required "procRate" readDays
  return ⟨← r.required "procTotal" readTotal, names, days⟩

/-- The date of a day. -/
def date (day : List (String × Json)) : String := ((day.lookup "date").bind Json.text?).getD "-"

/-- The number of files of a source on a day. -/
def count (day : List (String × Json)) (name : String) : Nat :=
  ((day.lookup name).bind Json.word?).getD 0

end Activity

end DocSearch
