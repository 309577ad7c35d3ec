import DocSearch.Backend.Answer
import DocSearch.Backend.Call
import DocSearch.Http.Exchange
import DocSearch.Json.Parser
import DocSearch.Request.Fixed
import DocSearch.Stats.TagPage
import DocSearch.TagIndex
/-!
# A document index as the search backend

The index is asked by requests over the wire. What changes a document names it by the id of its
file, and says how in a small script that the index runs.

* `Backend.call` — carries out a call of the search backend.
* `Backend.tagCounts` — counts all tags, page by page.
* `Backend.addTag`, `Backend.removeTag` — change the tags of a file.
-/

namespace DocSearch

/-- Where a document index is found: the address of its server, and its name. -/
structure Backend where
  address : String
  index : String
deriving DecidableEq, Repr, Inhabited

namespace Backend

/-- Requests that end with a result or the first failure. -/
abbrev Call (α : Type) := ExceptT ProviderError Exchange α

/-- The address of an endpoint of the index. -/
def url (b : Backend) (endpoint : String) : String :=
  Address.trimSlashes b.address ++ "/" ++ b.index ++ "/" ++ endpoint

/-- The value that a reply brings. -/
def contentOf (reply : WireReply) : Except ProviderError Json :=
  if reply.isSuccess then
    match Json.parse? (Text.bytes reply.content) with
    | some value => .ok value
    | none => .error .http
  else .error (.backend reply.status reply.readable)

/-- Sends a value to an endpoint, and gives the value that comes back. -/
def post (b : Backend) (endpoint : String) (body : Json) : Call Json :=
  ExceptT.mk (match Address.parse? (b.url endpoint) with
    | none => .done (.error .http)
    | some address => .act ⟨"POST", address, some body⟩ fun reply =>
        .done (match reply with
          | none => .error .http
          | some reply => contentOf reply))

/-- Reads a value that has come back. -/
def understand {α : Type} (read : Reader α) (value : Json) : Call α :=
  match read value.toForm with
  | some a => pure a
  | none => throw .malformed

/-- Asks for what a request describes, given as JSON. -/
def ask (b : Backend) (request : Json) : Call SearchAnswer := do
  understand IndexAnswer.read (← b.post "_search" request)

/-- The clause that only the documents of a file satisfy. -/
def ofFile (id : String) : Json := .obj [("term", .obj [("file_id", .str id)])]

/-- The file of an id, without its text. -/
def file (b : Backend) (id : String) : Call (Option FileHit) := do
  let answer ← b.ask (.obj [
    ("_source", .obj [("excludes", .texts ["content.text"])]),
    ("from", .nat 0),
    ("query", ofFile id),
    ("size", .nat 1)])
  return answer.hits.head?

/-! ## Changes -/

/-- Gives a document a tag, unless it has it. -/
def addTagScript : String :=
  "if (ctx._source.tags == null) \x7b ctx._source.tags = []; \x7d " ++
  "for (t in ctx._source.tags) \x7b " ++
  "if (t.type == params.tag.type && t.name == params.tag.name) " ++
  "\x7b ctx.op = 'noop'; return; \x7d \x7d " ++
  "ctx._source.tags.add(params.tag);"

/-- Takes a tag from a document, if it has it. -/
def removeTagScript : String :=
  "if (ctx._source.tags == null || !ctx._source.tags.removeIf(" ++
  "t -> t.type == params.tag.type && t.name == params.tag.name)) " ++
  "\x7b ctx.op = 'noop'; \x7d"

/-- Hides a document, or shows it again. -/
def setHiddenScript : String := "ctx._source.hidden = params.hidden;"

/-- Runs a script on the documents of a file, of which there must be one. -/
def update (b : Backend) (id script : String) (params : Json) : Call UpdateAnswer := do
  let value ← b.post "_update_by_query?refresh=true&conflicts=proceed" (.obj [
    ("query", ofFile id),
    ("script", .obj [
      ("lang", .str "painless"),
      ("params", params),
      ("source", .str script)])])
  let answer ← understand UpdateAnswer.read value
  if answer.met = 0 then throw (TagIndex.unknown id)
  return answer

/-- Runs a script that changes a tag. -/
def changeTag (b : Backend) (id script : String) (tag : Tag) : Call TagChange := do
  let answer ← b.update id script (.obj [("tag", tag.toJson)])
  return if answer.changed = 0 then .unchanged else .applied

/-- Gives a file a tag. -/
def addTag (b : Backend) (id : String) (tag : Tag) : Call TagChange := b.changeTag id addTagScript tag

/-- Takes a tag from a file. -/
def removeTag (b : Backend) (id : String) (tag : Tag) : Call TagChange :=
  b.changeTag id removeTagScript tag

/-- Hides a file from searches, or shows it again. -/
def setHidden (b : Backend) (id : String) (hidden : Bool) : Call Unit := do
  let _ ← b.update id setHiddenScript (.obj [("hidden", .bool hidden)])

/-- Carries out a call of the search backend. -/
def call (b : Backend) : (c : BackendCall) → Exchange c.Reply
  | .search request => (b.ask request.toJson).run
  | .file id => (b.file id).run
  | .setHidden id hidden => (b.setHidden id hidden).run

/-! ## Counts of tags -/

/-- The failure of a walk that has not come to an end. -/
def endless : ProviderError := .other "too many pages of tags"

/-- The counts behind the key `after`, read in at most `pages` pages. A page that is not full, or
names no last key, is the last one. -/
def countsAfter (b : Backend) : (pages : Nat) → (after : Option Json) → Call (List TagCount)
  | 0, _ => throw endless
  | pages + 1, after => do
    let answer ← b.ask (SearchRequest.tagCounts after).toJson
    let page := TagPage.ofJson answer.aggregations
    match page.afterKey with
    | some key =>
      if SearchRequest.tagPageSize ≤ page.buckets then
        return page.entries ++ (← b.countsAfter pages (some key))
      else return page.entries
    | none => return page.entries

/-- The counts of all tags, read in at most `pages` pages. -/
def tagCounts (b : Backend) (pages : Nat) : Call (List TagCount) := b.countsAfter pages none

end Backend

end DocSearch
