import DocSearch.Http.Exchange
import DocSearch.Page
import DocSearch.Query.Parser
import DocSearch.Request.Fixed
import DocSearch.Service.Reply
import DocSearch.Service.Route
import DocSearch.Service.Step
import DocSearch.Stats.Dashboard
import DocSearch.Stats.Processing
/-!
# The service

A request is checked completely before the first step is made for it: what is refused leaves no
trace.

* `Service.carryOut` — carries out an operation.
* `Service.handle` — answers a request; `Service.respond` performs what that takes.
-/

namespace DocSearch

/-- The words of a query that all searches take. -/
structure SearchParams where
  query : Option String := none
  page : Option String := none
  size : Option String := none
deriving DecidableEq, Repr, Inhabited

/-- Reads a query. None of the known words may be given twice; others are passed over. -/
def SearchParams.parse? (query : List Char) : Option SearchParams :=
  let pairs := Percent.formPairs query
  if knownOnce ["query", "page", "size"] pairs then
    some ⟨pairs.lookup "query", pairs.lookup "page", pairs.lookup "size"⟩
  else none

/-- What makes one service differ from another. -/
structure Service where
  codec : Codec
  /-- How many tags the statistics of a search show. -/
  tagLimit : Nat
deriving DecidableEq, Repr, Inhabited

namespace Service

/-- Steps that end with a result or the first failure. -/
abbrev Call (α : Type) := ExceptT ServiceError (Procedure Step.Reply) α

/-- Goes on with what a check lets pass. -/
def check {α : Type} : Except ValidationError α → Call α
  | .ok a => pure a
  | .error e => throw (.validation e)

/-- Goes on with what the steps come back with. -/
def provided {α : Type} (p : Procedure Step.Reply (Except ProviderError α)) : Call α :=
  ExceptT.mk (p.bind fun r => .done (r.mapError ServiceError.ofProvider))

/-- A call of the tag cache. -/
def caching {α : Type} (c : Cache.Call α) : Call α :=
  provided (Procedure.embed (fun a => Procedure.ofAction (Step.cache a)) c.run)

/-- Asks the search backend for what a request describes. -/
def ask (request : SearchRequest) : Call SearchAnswer :=
  provided (.ofAction (Step.backend (.search request)))

/-- The time. -/
def now : Call Instant := ExceptT.lift (.ofAction Step.clock)

/-- A nonce that was never given before. -/
def freshNonce : Call Nonce := ExceptT.lift (.ofAction Step.nonce)

/-- The milliseconds since an instant. -/
def since (start : Instant) : Call Nat := do
  return ((← now).millis - start.millis).toNat

/-! ## Searches -/

/-- The hit with a token to download its file. -/
def withToken (s : Service) (hit : FileHit) : Call FileHit := do
  match s.codec.encode (← freshNonce) hit.fileId with
  | .ok token => return { hit with info := { hit.info with downloadUri := some token } }
  | .error e => throw (.token e)

/-- A page of the files that a query asks for. Small and large files are searched apart, each as
deep as the page reaches, and ranked together. -/
def search (s : Service) (p : SearchParams) : Call ServiceReply := do
  let page ← check (Page.parse p.page p.size)
  let start ← now
  let query := Query.parse start (p.query.getD "")
  let listing ← ask (query.page 0 page.depth .listing)
  let large ← ask (query.page 0 page.depth .largeFile)
  let (total, hits) := page.cut listing large
  let hits ← hits.mapM s.withToken
  return .found (.obj [
    ("hits", .arr (hits.map FileHit.toJson)),
    ("took", .nat (← since start)),
    ("total", .nat total)])

/-- The aggregations of a request made for a query, and the number of files. -/
def aggregated (query : String) (request : Query → SearchRequest) : Call ServiceReply := do
  let start ← now
  let answer ← ask (request (Query.parse start query))
  return .found (.obj [
    ("aggregations", answer.aggregations),
    ("took", .nat (← since start)),
    ("total", .nat answer.total)])

/-- The tags that the overview of all files shows. -/
def overviewTagLimit : Nat := 10000

/-- The first of the hits that a query has in one file. -/
def hitIn (file : String) (p : SearchParams) (mode : HighlightMode) : Call (Option FileHit) := do
  let query ← check (requiredText p.query)
  let answer ← ask ((Query.parse (← now) query).file file mode)
  return answer.hits.head?

/-- What is shown of a file in which nothing was found. -/
def noFragments : Fragments := [("text", [""])]

/-- The places of a file that a query finds. -/
def fragments (file : String) (p : SearchParams) : Call ServiceReply := do
  let hit ← hitIn file p .listing
  let found := (hit.bind (·.content.highlight)).getD noFragments
  return .found (.obj [("highlight", Fragments.toJson found)])

/-- A file with its whole text. -/
def wholeText (file : String) (p : SearchParams) : Call ServiceReply := do
  match ← hitIn file p .fullDocument with
  | some hit => return .found hit.toJson
  | none => throw (.notFound ("File " ++ file ++ " not found"))

/-! ## Tags -/

/-- The types of tags that users give. -/
def userTagTypes : List TagType := [.manual]

/-- The types of tags that other services give. -/
def serviceTagTypes : List TagType := [.auto, .source]

/-- Counts as JSON. -/
def countsJson (counts : List TagCount) : Json := .arr (counts.map TagCount.toJson)

/-- All tags. -/
def listTags : Call ServiceReply := do
  return .found (countsJson (← caching Cache.getTags))

/-- A user gives a file a tag. -/
def addTag (file type name : String) : Call ServiceReply := do
  let tag ← check (Tag.ofTexts type name userTagTypes)
  return .found (.obj [("tags", countsJson (← caching (Cache.addTag file tag)))])

/-- Another service gives a file a tag. -/
def addServiceTag (file type name : String) : Call ServiceReply := do
  let tag ← check (Tag.ofTexts type name serviceTagTypes)
  let _ ← caching (Cache.addTag file tag)
  return .done

/-- A tag of any type is taken from a file. -/
def removeTag (file type name : String) : Call ServiceReply := do
  let type ← check (TagType.parse type)
  let tag ← check (Tag.make type name)
  return .found (.obj [("tags", countsJson (← caching (Cache.removeTag file tag)))])

/-- The counts of all tags are taken afresh. -/
def flushTags : Call ServiceReply := do
  caching Cache.flush
  return .noContent

/-! ## Files -/

/-- A file is hidden from searches, or shown again. -/
def setHidden (file : String) (hidden : Bool) : Call ServiceReply := do
  provided (.ofAction (Step.backend (.setHidden file hidden)))
  return .done

/-- The file behind a token, with the token as it was given. -/
def fileOfToken (s : Service) (token : String) : Call ServiceReply := do
  match s.codec.decode token with
  | .error e => throw (.brokenToken e)
  | .ok id =>
    match ← provided (.ofAction (Step.backend (.file id))) with
    | some hit =>
      return .found { hit with info := { hit.info with downloadUri := some token } }.toJson
    | none => throw (.notFound "File meta not found")

/-! ## Statistics -/

/-- What is in the index, and what came in during the last days. -/
def dashboard : Call ServiceReply := do
  let answer ← ask .dashboard
  return .found (Dashboard.project (.ofJson answer.aggregations) (← now).day).toJson

/-- What came in by hour, day and month. -/
def processing : Call ServiceReply := do
  let answer ← ask .processing
  return .found (Processing.project answer.aggregations).toJson

/-! ## Requests -/

/-- Carries out an operation that takes the words of a query. -/
def searching (query : List Char) (go : SearchParams → Call ServiceReply) : Call ServiceReply :=
  match SearchParams.parse? query with
  | some p => go p
  | none => return .unreadable

/-- Carries out an operation. -/
def carryOut (s : Service) (query : List Char) : Operation → Call ServiceReply
  | .search => searching query s.search
  | .folders => searching query fun p => aggregated (p.query.getD "") Query.tree
  | .statistics => searching query fun p =>
      aggregated (p.query.getD "") fun q => q.statistics (some s.tagLimit)
  | .fragments file => searching query (fragments file)
  | .wholeText file => searching query (wholeText file)
  | .listTags => listTags
  | .flushTags => flushTags
  | .addServiceTag file type name => addServiceTag file type name
  | .addTag file type name => addTag file type name
  | .removeTag file type name => removeTag file type name
  | .setHidden file hidden => setHidden file hidden
  | .fileOfToken token => s.fileOfToken token
  | .dashboard => dashboard
  | .overview => aggregated "*" fun q => q.statistics (some overviewTagLimit)
  | .processing => processing

/-- The reply to an operation, carried out or not. -/
def reply (c : Call ServiceReply) : Procedure Step.Reply ServiceReply :=
  c.run.bind fun r => .done (match r with
    | .ok reply => reply
    | .error e => e.toReply)

/-- Answers a request for one of the operations of a path. -/
def handleOffered (s : Service) (method : String) (target : RequestTarget) :
    Procedure Step.Reply ServiceReply :=
  match Operation.offered target.path with
  | [] => .done .unknownPath
  | offered =>
    match offered.lookup method with
    | none => .done .wrongMethod
    | some operation =>
      match operation.decoded? with
      | none => .done .unreadable
      | some operation => reply (s.carryOut target.query operation)

/-- Answers a request. Who asks for the head of a reply only gets it without its value. -/
def handle (s : Service) (method target : String) : Procedure Step.Reply ServiceReply :=
  let target := RequestTarget.ofText target
  if method = "HEAD" then
    (s.handleOffered "GET" target).bind fun r => .done { r with body := none }
  else s.handleOffered method target

/-- Answers a request, nobody else being about. -/
def respond (s : Service) (method target : String) (w : ServiceWorld) :
    ServiceReply × ServiceWorld :=
  (s.handle method target).run Step.perform w

end Service

end DocSearch
