import DocSearch.Http.Address
import DocSearch.Json.Reader
import DocSearch.Procedure
/-!
# Requests over the wire and their replies

* `WireRequest`, `WireReply` — what is sent to a server, and what comes back.
* `Peer` — a server, as the answers that it gives; `Peer.ofReplies` gives prepared ones in order.
* `Exchange` — a procedure that sends requests.
* `Wire` — the requests sent so far, and `Wire.send`, which performs one more.
* `reasonPhrase?` — the phrase for a status.
-/

namespace DocSearch

/-- A request as it is sent. -/
structure WireRequest where
  method : String
  address : Address
  body : Option Json := none
deriving Repr, Inhabited

/-- Path and query, as they are sent. -/
def WireRequest.target (r : WireRequest) : String := r.address.target

/-- The request for whoever carries it: its method, its full address, and its value. -/
def WireRequest.toJson (r : WireRequest) : Json :=
  .obj [("body", r.body.getD .null), ("method", .str r.method), ("url", .str r.address.render)]

/-- A reply as it comes back. -/
structure WireReply where
  status : Nat
  text : String
deriving DecidableEq, Repr, Inhabited

namespace WireReply

/-- The request was carried out. -/
def isSuccess (r : WireReply) : Bool := 200 ≤ r.status && r.status < 300

/-- The text that comes with the status; some statuses come without. -/
def content (r : WireReply) : String := if r.status = 204 ∨ r.status = 304 then "" else r.text

/-- The text for a reader: a mark of the byte order in front is dropped. -/
def readable (r : WireReply) : String :=
  match r.content.toList with
  | '\uFEFF' :: cs => .ofList cs
  | cs => .ofList cs

/-- Reads a reply from whoever carried it: its status and its text. -/
def read : Reader WireReply := fun f => do
  let r ← f.record? ["status", "text"]
  return ⟨← r.required "status" Reader.word, ← r.defaulted "text" "" Reader.text⟩

end WireReply

/-- A procedure whose actions are requests. A request that reaches no server has no reply. -/
abbrev Exchange := Procedure fun _ : WireRequest => Option WireReply

/-- A server: the reply to its `n`-th request, absent when it cannot be reached. -/
structure Peer where
  answer : Nat → WireRequest → Option WireReply

namespace Peer

/-- A server that cannot be reached. -/
def unreachable : Peer := ⟨fun _ _ => none⟩

/-- What is replied when no reply is left. -/
def noReply : WireReply := ⟨500, "no reply"⟩

/-- A server that gives prepared replies in order, and knows no secure connections. -/
def ofReplies (replies : List WireReply) : Peer :=
  ⟨fun n r => if r.address.secure then none else some (replies.getD n noReply)⟩

end Peer

/-- A connection to a server, with the requests sent so far. -/
structure Wire where
  peer : Peer
  sent : List WireRequest := []

namespace Wire

/-- Sends a request. One that does not reach the server is not among those sent. -/
def send (r : WireRequest) (w : Wire) : Option WireReply × Wire :=
  match w.peer.answer w.sent.length r with
  | some reply => (some reply, { w with sent := w.sent ++ [r] })
  | none => (none, w)

/-- Runs a procedure over a fresh connection, and tells which requests it sent. -/
def exchange {α : Type} (peer : Peer) (p : Exchange α) : α × List WireRequest :=
  let (a, w) := p.run send { peer }
  (a, w.sent)

end Wire

/-- The phrase that goes with a status. -/
def reasonPhrase? (status : Nat) : Option String :=
  [(100, "Continue"), (101, "Switching Protocols"), (102, "Processing"), (200, "OK"),
    (201, "Created"), (202, "Accepted"), (203, "Non Authoritative Information"),
    (204, "No Content"), (205, "Reset Content"), (206, "Partial Content"), (207, "Multi-Status"),
    (208, "Already Reported"), (226, "IM Used"), (300, "Multiple Choices"),
    (301, "Moved Permanently"), (302, "Found"), (303, "See Other"), (304, "Not Modified"),
    (305, "Use Proxy"), (307, "Temporary Redirect"), (308, "Permanent Redirect"),
    (400, "Bad Request"), (401, "Unauthorized"), (402, "Payment Required"), (403, "Forbidden"),
    (404, "Not Found"), (405, "Method Not Allowed"), (406, "Not Acceptable"),
    (407, "Proxy Authentication Required"), (408, "Request Timeout"), (409, "Conflict"),
    (410, "Gone"), (411, "Length Required"), (412, "Precondition Failed"),
    (413, "Payload Too Large"), (414, "URI Too Long"), (415, "Unsupported Media Type"),
    (416, "Range Not Satisfiable"), (417, "Expectation Failed"), (418, "I'm a teapot"),
    (421, "Misdirected Request"), (422, "Unprocessable Entity"), (423, "Locked"),
    (424, "Failed Dependency"), (425, "Too Early"), (426, "Upgrade Required"),
    (428, "Precondition Required"), (429, "Too Many Requests"),
    (431, "Request Header Fields Too Large"), (451, "Unavailable For Legal Reasons"),
    (500, "Internal Server Error"), (501, "Not Implemented"), (502, "Bad Gateway"),
    (503, "Service Unavailable"), (504, "Gateway Timeout"), (505, "HTTP Version Not Supported"),
    (506, "Variant Also Negotiates"), (507, "Insufficient Storage"), (508, "Loop Detected"),
    (510, "Not Extended"), (511, "Network Authentication Required")].lookup status

end DocSearch
