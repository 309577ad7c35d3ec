import DocSearch.Http.Percent
/-!
# Routes

* `Operation` — what the service can be asked to do.
* `Operation.offered` — the operations that a path offers, by method. A path is the list of its
  segments; a fixed segment goes before one that stands for any text.
* `Operation.decoded?` — the operation with the percent codes in its texts resolved.
* `RequestTarget` — a path and a query.
-/

namespace DocSearch

/-- What the service can be asked to do. -/
inductive Operation where
  | search
  | folders
  | statistics
  | fragments (file : String)
  | wholeText (file : String)
  | listTags
  | flushTags
  | addServiceTag (file type name : String)
  | addTag (file type name : String)
  | removeTag (file type name : String)
  | setHidden (file : String) (hidden : Bool)
  | fileOfToken (token : String)
  | dashboard
  | overview
  | processing
deriving DecidableEq, Repr, Inhabited

namespace Operation

/-- The operations of a path without empty segments. -/
def offeredBy : List String → List (String × Operation)
  | ["api", "search"] => [("GET", search)]
  | ["api", "search", "tree"] => [("GET", folders)]
  | ["api", "search", "stats"] => [("GET", statistics)]
  | ["api", "search", file] => [("GET", fragments file)]
  | ["api", "search", file, "full"] => [("GET", wholeText file)]
  | ["api", "tags"] => [("GET", listTags)]
  | ["api", "tags", "cache"] => [("DELETE", flushTags)]
  | ["api", "tags", "service", file, type, name] => [("POST", addServiceTag file type name)]
  | ["api", "tags", file, type, name] =>
    [("POST", addTag file type name), ("DELETE", removeTag file type name)]
  | ["api", "files", "hide", file] => [("PUT", setHidden file true)]
  | ["api", "files", "unhide", file] => [("PUT", setHidden file false)]
  | ["api", "files", token] => [("GET", fileOfToken token)]
  | ["api", "stats"] => [("GET", dashboard)]
  | ["api", "stats", "combined"] => [("GET", overview)]
  | ["api", "stats", "processing"] => [("GET", processing)]
  | _ => []

/-- The operations that a path offers, none where a segment is empty. -/
def offered (path : List String) : List (String × Operation) :=
  if "" ∈ path then [] else offeredBy path

/-- The text that a segment of a path stands for. -/
def decodeText? (s : String) : Option String := Text.ofBytes? (Percent.decode s.toList)

/-- The operation with the percent codes in its texts resolved, absent when one is no text. -/
def decoded? : Operation → Option Operation
  | fragments file => return fragments (← decodeText? file)
  | wholeText file => return wholeText (← decodeText? file)
  | addServiceTag file type name =>
    return addServiceTag (← decodeText? file) (← decodeText? type) (← decodeText? name)
  | addTag file type name =>
    return addTag (← decodeText? file) (← decodeText? type) (← decodeText? name)
  | removeTag file type name =>
    return removeTag (← decodeText? file) (← decodeText? type) (← decodeText? name)
  | setHidden file hidden => return setHidden (← decodeText? file) hidden
  | fileOfToken token => return fileOfToken (← decodeText? token)
  | other => some other

end Operation

/-- Path and query of a request. -/
structure RequestTarget where
  path : List String
  query : List Char
deriving DecidableEq, Repr, Inhabited

namespace RequestTarget

/-- The segments of a path, which starts with a slash. -/
def segments : List Char → List String
  | '/' :: cs => (cs.splitOnP (· == '/')).map String.ofList
  | _ => []

/-- Reads a target. What follows a number sign is not part of it. -/
def ofText (s : String) : RequestTarget :=
  let (path, query) := Percent.splitAt '?' (s.toList.takeWhile (· ≠ '#'))
  ⟨segments path, query⟩

end RequestTarget

end DocSearch
