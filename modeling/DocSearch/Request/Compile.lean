import DocSearch.Query.Basic
import DocSearch.Request.Clause
import DocSearch.Text.Blank
import DocSearch.Text.Lower
/-!
# Requests for queries

* `TextField`, `MatchStrategy` — a term with `*` or `?` is a pattern for the field as it stands, any
  other term is full text.
* `Query.must` — the clauses of a query. Blank parts add none.
* `HighlightMode` — which files a page shows, and how much of their content.
* `Query.page`, `Query.file`, `Query.tree`, `Query.statistics` — the requests for a page of hits, for
  one file, for the folders and for statistics.
-/

namespace DocSearch

/-- Fragments of this many characters are shown. -/
def fragmentSize : Nat := 500

/-- At most this many fragments are shown. -/
def fragmentCount : Nat := 50

/-- Phrases looked at for the fragments of a content. -/
def phraseLimit : Nat := 1024

/-- A fragment that takes in a whole content. -/
def wholeFragmentSize : Nat := 10 * 1024 * 1024

/-- Files of this size are large. -/
def largeFileSize : Nat := 50000000

/-- Tags shown in statistics unless told otherwise. -/
def defaultTagLimit : Nat := 50

/-- Folders shown in a tree. -/
def folderLimit : Nat := 200

/-- A field as it stands, and the field of its words. -/
structure TextField where
  raw : String
  analyzed : String
deriving DecidableEq, Repr, Inhabited

namespace TextField

/-- The path of a file. -/
def fullName : TextField := ⟨"meta.full_name", "meta.full_name.analyzed"⟩

/-- The author of a content. -/
def author : TextField := ⟨"content.author", "content.author.analyzed"⟩

/-- The source that a file comes from. -/
def source : TextField := ⟨"meta.source_id", "meta.source_id.analyzed"⟩

end TextField

/-- How a term is matched. -/
inductive MatchStrategy where
  | wildcard
  | analyzed
deriving DecidableEq, Repr, Inhabited

namespace MatchStrategy

/-- Terms with `*` or `?` are patterns. -/
def ofTerm (term : String) : MatchStrategy :=
  if term.toList.any fun c => c = '*' || c = '?' then wildcard else analyzed

/-- The clause for a term. Patterns are in lowercase, as the field is. -/
def clause (s : MatchStrategy) (field : TextField) (term : String) : Clause :=
  match s with
  | wildcard => .wildcard field.raw (Text.lower term)
  | analyzed => .fullText field.analyzed term

end MatchStrategy

/-- The clause that matches a term with a field. -/
def TextField.clause (field : TextField) (term : String) : Clause :=
  (MatchStrategy.ofTerm term).clause field term

/-! ## The clauses of a query -/

/-- The items that are not blank, trimmed. -/
def nonBlankItems (items : List String) : List String := items.filterMap Text.nonBlank?

/-- The clause that asks for a tag. -/
def tagClause (name : String) : Clause := .nested "tags" (.term "tags.name" (.str name))

/-- The clause of an alternative, unless there is nothing to choose from. -/
def anyOf? (clauses : List Clause) : Option Clause :=
  if clauses.isEmpty then none else some (.anyOf clauses)

namespace Query

/-- The fields in which free text is looked for. -/
def contentFields : List String :=
  ["content.text", "content.author.analyzed", "meta.source_id.analyzed", "meta.full_name.analyzed"]

/-- The clause for a part of the query that is not blank. -/
def clauseOf? (part : Option String) (clause : String → Clause) : Option Clause :=
  (part.bind Text.nonBlank?).map clause

/-- The clauses for the free text: one or none. -/
def contentClauses (q : Query) : List Clause :=
  (clauseOf? q.content (.simpleQuery · contentFields)).toList

/-- The clauses for the sizes of files. -/
def sizeClauses (q : Query) : List Clause :=
  let r := q.size.getD {}
  (r.gte.map fun n => .range "content.size" (.gte (.nat n))).toList ++
    (r.lte.map fun n => .range "content.size" (.lte (.nat n))).toList

/-- The clauses for the times of files. -/
def updatedClauses (q : Query) : List Clause :=
  let r := q.updated.getD {}
  (clauseOf? r.gte fun t => .range "meta.updated_datetime" (.gte (.str t))).toList ++
    (clauseOf? r.lte fun t => .range "meta.updated_datetime" (.lte (.str t))).toList

/-- The clause for the tags of files: all of the required, none of the forbidden ones. -/
def tagClauses (q : Query) : List Clause :=
  let required := (nonBlankItems q.tags).map tagClause
  let forbidden := (nonBlankItems q.notTags).map tagClause
  if required.isEmpty && forbidden.isEmpty then [] else [.bool required [] forbidden none]

/-- The clauses for hidden and visible files. -/
def hiddenClauses (q : Query) : List Clause :=
  (if q.hiddenOnly then [.term "hidden" (.bool true)] else []) ++
    (if q.visibleOnly then [.term "hidden" (.bool false)] else [])

/-- The clauses that every hit satisfies: within a scope of sizes, for one file, or both. -/
def must (q : Query) (scope : Option Clause) (file : Option String) : List Clause :=
  (clauseOf? file fun id => .term "file_id" (.str id)).toList ++
    scope.toList ++
    [.term "content.state" (.str "processed")] ++
    (clauseOf? q.name TextField.fullName.clause).toList ++
    (clauseOf? q.author TextField.author.clause).toList ++
    (anyOf? ((nonBlankItems q.source).map TextField.source.clause)).toList ++
    q.sizeClauses ++
    q.updatedClauses ++
    q.tagClauses ++
    (anyOf? q.contentClauses).toList ++
    q.hiddenClauses

end Query

/-! ## Pages of hits -/

/-- What a page of hits shows. -/
inductive HighlightMode where
  /-- Files that are not large, with fragments of their contents. -/
  | listing
  /-- Large files, without their contents. -/
  | largeFile
  /-- Files of all sizes, with the whole content. -/
  | fullDocument
deriving DecidableEq, Repr, Inhabited

namespace HighlightMode

/-- The sizes of the files shown. -/
def scope : HighlightMode → Option Clause
  | listing => some (.range "content.size" (.lt (.nat largeFileSize)))
  | largeFile => some (.range "content.size" (.gte (.nat largeFileSize)))
  | fullDocument => none

/-- How the content is shown for the clauses of the free text. -/
def contentField (mode : HighlightMode) (clauses : List Clause) : Option HighlightField :=
  match mode with
  | listing => some {
      query := some (.anyOf clauses)
      highlighter := some "fvh"
      fragmentSize := fragmentSize
      fragments := fragmentCount
      phraseLimit := some phraseLimit
      noMatchSize := some fragmentSize }
  | largeFile => none
  | fullDocument => some {
      query := some (.anyOf clauses)
      highlighter := some "fvh"
      fragmentSize := wholeFragmentSize
      fragments := 1
      noMatchSize := some wholeFragmentSize }

end HighlightMode

namespace Query

/-- The fields other than the content that are shown. -/
def shownFields : List String :=
  ["content.author", "content.author.analyzed", "meta.full_name", "meta.full_name.analyzed",
    "meta.source_id", "meta.source_id.analyzed"]

/-- How these are shown: fragments without marks. -/
def shownField : HighlightField where
  preTags := some [""]
  postTags := some [""]
  fragmentSize := fragmentSize
  fragments := fragmentCount

/-- The highlight of a page. -/
def highlight (q : Query) (mode : HighlightMode) : Highlight :=
  let shown := shownFields.map fun name => (name, shownField)
  match mode.contentField q.contentClauses with
  | some field => ⟨putField "content.text" field shown⟩
  | none => ⟨shown⟩

/-- A page of hits that satisfy all clauses. -/
def paged (q : Query) (must : List Clause) (offset size : Nat) (mode : HighlightMode) :
    SearchRequest where
  offset := offset
  size := size
  query := some (.bool must [] [] (some 0))
  highlight := some (q.highlight mode)

/-- The request for a page of hits. -/
def page (q : Query) (offset size : Nat) (mode : HighlightMode) : SearchRequest :=
  q.paged (q.must mode.scope none) offset size mode

/-- The request for one file of any size. -/
def file (q : Query) (id : String) (mode : HighlightMode) : SearchRequest :=
  q.paged (q.must none (some id)) 0 1 mode

end Query

/-! ## Aggregations -/

/-- Buckets of the values of a field. -/
def termsOf (field : String) : Json := .obj [("terms", .obj [("field", .str field)])]

/-- At most `size` buckets of the values of a field. -/
def termsUpTo (field : String) (size : Nat) : Json :=
  .obj [("terms", .obj [("field", .str field), ("size", .nat size)])]

/-- Number, sum, mean, least and greatest value of a field. -/
def statsOf (field : String) : Json := .obj [("stats", .obj [("field", .str field)])]

namespace Query

/-- Aggregations over the hits, without the hits themselves. -/
def aggregated (q : Query) (aggregations : Json) : SearchRequest where
  offset := 0
  size := 0
  query := some (.bool (q.must none none) [] [] none)
  aggregations := some aggregations

/-- The request for the folders of the hits. -/
def tree (q : Query) : SearchRequest :=
  q.aggregated (.obj [("full_name_parts", .obj [
    ("aggs", .obj [
      ("content_type", termsUpTo "content.type" 1),
      ("file_id", termsUpTo "file_id" 1),
      ("sha256", termsUpTo "sha256" 1),
      ("thumb_available", termsUpTo "content.thumb_available" 1)]),
    ("terms", .obj [("field", .str "meta.full_name_parts"), ("size", .nat folderLimit)])])])

/-- The request for statistics of the hits, with at most `tagLimit` tags. -/
def statistics (q : Query) (tagLimit : Option Nat) : SearchRequest :=
  q.aggregated (.obj [
    ("extensions", .obj [
      ("aggs", .obj [("size", statsOf "content.size")]),
      ("terms", .obj [("field", .str "meta.extension")])]),
    ("summary", statsOf "content.size"),
    ("tags", .obj [
      ("aggs", .obj [("names", .obj [
        ("aggs", .obj [("types", termsUpTo "tags.type" 1)]),
        ("terms", .obj [
          ("field", .str "tags.name"),
          ("size", .nat (tagLimit.getD defaultTagLimit))])])]),
      ("nested", .obj [("path", .str "tags")])])])

end Query

end DocSearch
