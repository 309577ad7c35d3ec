import DocSearch.Json.Basic
/-!
# Clauses and search requests

* `Clause` — a condition on documents, in the shapes that the search backend knows.
* `Highlight` — which fields show the places that match.
* `SearchRequest` — the body of a search: a page of hits, aggregations, or both.
* `Clause.toJson`, `SearchRequest.toJson` — the JSON that the backend reads. Empty lists and absent
  parts are left out.
-/

namespace DocSearch

/-- One bound of a range. -/
inductive Bound where
  | gte (value : Json)
  | lte (value : Json)
  | lt (value : Json)
deriving Repr, Inhabited

/-- The bound as the only field of an object. -/
def Bound.toJson : Bound → Json
  | gte v => .obj [("gte", v)]
  | lte v => .obj [("lte", v)]
  | lt v => .obj [("lt", v)]

/-- A condition on documents. -/
inductive Clause where
  /-- The field has this value. -/
  | term (field : String) (value : Json)
  /-- The field holds the words of the text. -/
  | fullText (field : String) (text : String)
  /-- The field matches a pattern of `*` and `?`. -/
  | wildcard (field : String) (pattern : String)
  /-- The field lies within the bound. -/
  | range (field : String) (bound : Bound)
  /-- Some of the fields hold all words of the text, which may use operators. -/
  | simpleQuery (text : String) (fields : List String)
  /-- One of the parts under the path satisfies the clause. -/
  | nested (path : String) (inner : Clause)
  /-- All of `must`, none of `mustNot`, and at least `least` of `should`. -/
  | bool (must should mustNot : List Clause) (least : Option Nat)
deriving Repr, Inhabited

namespace Clause

/-- At least one of the clauses holds. -/
def anyOf (clauses : List Clause) : Clause := .bool [] clauses [] (some 1)

mutual

/-- The clause as the only field of an object, named for its shape. -/
def toJson : Clause → Json
  | term field value => .obj [("term", .obj [(field, value)])]
  | fullText field text => .obj [("match", .obj [(field, .str text)])]
  | wildcard field pattern => .obj [("wildcard", .obj [(field, .str pattern)])]
  | range field bound => .obj [("range", .obj [(field, bound.toJson)])]
  | simpleQuery text fields =>
    .obj [("simple_query_string", .obj [
      ("default_operator", .str "and"),
      ("fields", .texts fields),
      ("query", .str text)])]
  | nested path inner => .obj [("nested", .obj [("path", .str path), ("query", inner.toJson)])]
  | bool must should mustNot least =>
    .obj [("bool", .obj (
      Json.fieldOf "minimum_should_match" (least.map .nat) ++
      Json.fieldOf "must" (Json.nonEmpty? (toJsons must)) ++
      Json.fieldOf "must_not" (Json.nonEmpty? (toJsons mustNot)) ++
      Json.fieldOf "should" (Json.nonEmpty? (toJsons should))))]

/-- The clauses of a list. -/
def toJsons : List Clause → List Json
  | [] => []
  | c :: cs => c.toJson :: toJsons cs

end

end Clause

/-- How the matching places of one field are shown. -/
structure HighlightField where
  preTags : Option (List String) := none
  postTags : Option (List String) := none
  query : Option Clause := none
  highlighter : Option String := none
  fragmentSize : Nat
  fragments : Nat
  phraseLimit : Option Nat := none
  noMatchSize : Option Nat := none
deriving Repr, Inhabited

/-- The JSON of a highlighted field. -/
def HighlightField.toJson (h : HighlightField) : Json :=
  .obj (
    [("fragment_size", .nat h.fragmentSize)] ++
    Json.fieldOf "highlight_query" (h.query.map Clause.toJson) ++
    Json.fieldOf "no_match_size" (h.noMatchSize.map .nat) ++
    [("number_of_fragments", .nat h.fragments)] ++
    Json.fieldOf "phrase_limit" (h.phraseLimit.map .nat) ++
    Json.fieldOf "post_tags" (h.postTags.map .texts) ++
    Json.fieldOf "pre_tags" (h.preTags.map .texts) ++
    Json.fieldOf "type" (h.highlighter.map .str))

/-- Which fields show the places that match; the fields stand in the order of their names. -/
structure Highlight where
  fields : List (String × HighlightField)
deriving Repr, Inhabited

/-- The JSON of a highlight: best fragments first, only in fields that match. -/
def Highlight.toJson (h : Highlight) : Json :=
  .obj [
    ("fields", .obj (h.fields.map fun f => (f.1, f.2.toJson))),
    ("order", .str "score"),
    ("require_field_match", .bool true)]

/-- The body of a search: `size` hits behind the first `offset` ones. -/
structure SearchRequest where
  offset : Nat
  size : Nat
  query : Option Clause := none
  highlight : Option Highlight := none
  aggregations : Option Json := none
deriving Repr, Inhabited

namespace SearchRequest

/-- The clauses that every hit satisfies, none for a request without a query. -/
def must (r : SearchRequest) : List Clause :=
  match r.query with
  | some (.bool must _ _ _) => must
  | _ => []

/-- The JSON of a request. -/
def toJson (r : SearchRequest) : Json :=
  .obj (
    Json.fieldOf "aggs" r.aggregations ++
    [("from", .nat r.offset)] ++
    Json.fieldOf "highlight" (r.highlight.map Highlight.toJson) ++
    Json.fieldOf "query" (r.query.map Clause.toJson) ++
    [("size", .nat r.size)])

end SearchRequest

end DocSearch
