import DocSearch.Assoc
import DocSearch.Tag
/-!
# The tag index

* `TagIndex` — which file carries which tags. It alone says what is true; the cache follows it.
* `TagIndex.add`, `TagIndex.remove` — change the tags of a file that is known.
* `TagIndex.counts` — every tag that a file carries, with the number of these files.
-/

namespace DocSearch

/-- A change of a tag was made, or there was nothing to change. -/
inductive TagChange where
  | applied
  | unchanged
deriving DecidableEq, Repr, Inhabited

/-- The tags of each file, each tag once. -/
structure TagIndex where
  files : List (String × List Tag) := []
deriving DecidableEq, Repr, Inhabited

namespace TagIndex

/-- The tags with one more, unless it is there. -/
def insertTag (tag : Tag) (tags : List Tag) : List Tag := if tag ∈ tags then tags else tags ++ [tag]

/-- The tags of a file. -/
def tagsOf? (x : TagIndex) (file : String) : Option (List Tag) := x.files.lookup file

/-- Makes a file known, and gives it tags on top of those it has. -/
def insertFile (x : TagIndex) (file : String) (tags : List Tag) : TagIndex :=
  ⟨Assoc.set file (tags.foldl (fun acc t => insertTag t acc) ((x.tagsOf? file).getD [])) x.files⟩

/-- The file is not known. -/
def unknown (file : String) : ProviderError := .notFound ("file " ++ file)

/-- Gives a known file a tag. -/
def add (x : TagIndex) (file : String) (tag : Tag) : Except ProviderError TagChange × TagIndex :=
  match x.tagsOf? file with
  | none => (.error (unknown file), x)
  | some tags =>
    if tag ∈ tags then (.ok .unchanged, x)
    else (.ok .applied, ⟨Assoc.set file (tags ++ [tag]) x.files⟩)

/-- Takes a tag from a known file. -/
def remove (x : TagIndex) (file : String) (tag : Tag) : Except ProviderError TagChange × TagIndex :=
  match x.tagsOf? file with
  | none => (.error (unknown file), x)
  | some tags =>
    if tag ∈ tags then (.ok .applied, ⟨Assoc.set file (tags.filter (· ≠ tag)) x.files⟩)
    else (.ok .unchanged, x)

/-- The number of files that carry a tag. -/
def count (x : TagIndex) (tag : Tag) : Nat := (x.files.filter fun f => tag ∈ f.2).length

/-- All tags that files carry, each once. -/
def tags (x : TagIndex) : List Tag :=
  (x.files.flatMap (·.2)).foldl (fun acc t => insertTag t acc) []

/-- The lower type comes first, then the lower name. -/
def tagPrecedes (a b : Tag) : Bool :=
  if a.type ≠ b.type then a.type.rank < b.type.rank else a.name ≤ b.name

/-- The number of files of each tag, by type and name. -/
def counts (x : TagIndex) : List TagCount :=
  (x.tags.mergeSort tagPrecedes).map fun t => ⟨t.name, t.type, x.count t⟩

end TagIndex

end DocSearch
