import DocSearch.Error
import DocSearch.Json.Reader
import DocSearch.Text.Blank
import DocSearch.Text.Lower
/-!
# Tags

* `TagType`, `Tag` — a tag is a name of one of three types.
* `Tag.make` — a tag with its name trimmed and in lowercase; names are not empty and hold no space.
* `Tag.cacheField` — the text under which a tag is counted in the cache.
* `TagCount` — a tag with the number of files that carry it, and `TagCount.ofRow?`, which reads it
  back from a row of the cache.
* `TagCount.precedes` — more files first, then by type, then by name.
-/

namespace DocSearch

/-- The types of tags, in their order. -/
inductive TagType where
  | auto
  | source
  | manual
deriving DecidableEq, Repr, Inhabited

namespace TagType

/-- The name of a type. -/
def name : TagType → String
  | auto => "auto"
  | source => "source"
  | manual => "manual"

/-- The place of a type in the order. -/
def rank : TagType → Nat
  | auto => 0
  | source => 1
  | manual => 2

/-- The type of exactly that name. -/
def ofName? (s : String) : Option TagType :=
  if s = "auto" then some auto
  else if s = "source" then some source
  else if s = "manual" then some manual
  else none

/-- The type of that name in any case, with blanks around it. -/
def parse (s : String) : Except ValidationError TagType :=
  let word := Text.lower (Text.trim s)
  match ofName? word with
  | some t => .ok t
  | none => .error (.invalidTagType word)

/-- The name of a type as JSON. -/
def toJson (t : TagType) : Json := .str t.name

/-- Reads the name of a type, also as the only field of an object, with `null` behind it. -/
def read : Reader TagType
  | .str s => ofName? s
  | .obj [(s, .null)] => ofName? s
  | _ => none

end TagType

/-- A tag. -/
structure Tag where
  type : TagType
  name : String
deriving DecidableEq, Repr, Inhabited

namespace Tag

/-- The tag of a type whose name is the text trimmed and in lowercase. -/
def make (type : TagType) (text : String) : Except ValidationError Tag :=
  let name := Text.lower (Text.trim text)
  if name = "" then .error (.missingField "tagName")
  else if ' ' ∈ name.toList then .error (.invalidTagName name)
  else .ok ⟨type, name⟩

/-- The tag of a type and name given as texts, if the type is one of those allowed. -/
def ofTexts (type name : String) (allowed : List TagType) : Except ValidationError Tag :=
  match TagType.parse type with
  | .error e => .error e
  | .ok type =>
    if type ∈ allowed then make type name else .error (.tagTypeNotAllowed type.name)

/-- The text under which a tag is counted in the cache. -/
def cacheField (t : Tag) : String := t.type.name ++ " " ++ t.name

/-- Type and name. -/
def toJson (t : Tag) : Json := .obj [("name", .str t.name), ("type", t.type.toJson)]

/-- Reads type and name as they stand. -/
def read : Reader Tag := fun f => do
  let r ← f.record? ["type", "name"]
  return ⟨← r.required "type" TagType.read, ← r.required "name" Reader.text⟩

end Tag

/-- A tag with the number of files that carry it. -/
structure TagCount where
  name : String
  type : TagType
  files : Nat
deriving DecidableEq, Repr, Inhabited

namespace TagCount

/-- The tag that is counted. -/
def tag (c : TagCount) : Tag := ⟨c.type, c.name⟩

/-- The two parts of a text around its first space. -/
def splitAtSpace? : List Char → Option (List Char × List Char)
  | [] => none
  | c :: cs =>
    if c = ' ' then some ([], cs) else (splitAtSpace? cs).map fun (a, b) => (c :: a, b)

/-- Reads a row of the cache: a type, a space and a name, and a positive number. -/
def ofRow? (field value : String) : Option TagCount := do
  let (type, name) ← splitAtSpace? field.toList
  let type ← (TagType.parse (.ofList type)).toOption
  let n ← Text.integer? (Text.trim value)
  if n ≤ 0 then none else some ⟨.ofList name, type, n.toNat⟩

/-- The row that is written for a count: the name of its type, a space and its own name, and the
number. -/
def toRow (c : TagCount) : String × String :=
  (c.type.name ++ " " ++ c.name, toString c.files)

/-- Name, type and number of files. -/
def toJson (c : TagCount) : Json :=
  .obj [("filesCount", .nat c.files), ("name", .str c.name), ("type", c.type.toJson)]

/-- More files come first, then the lower type, then the lower name. -/
def precedes (a b : TagCount) : Bool :=
  if a.files ≠ b.files then b.files < a.files
  else if a.type ≠ b.type then a.type.rank < b.type.rank
  else a.name ≤ b.name

/-- The counts in their order. -/
def sort (counts : List TagCount) : List TagCount := counts.mergeSort precedes

end TagCount

end DocSearch
