import DocSearch.Error
import DocSearch.Json.Basic
/-!
# Replies of the service

* `ServiceReply` — a status, mostly with a value.
* `ServiceError` — why a request is not carried out, with its status and the text for a user.
-/

namespace DocSearch

/-- What the service replies. -/
structure ServiceReply where
  status : Nat
  body : Option Json := none
deriving Repr, Inhabited

namespace ServiceReply

/-- The request was carried out; nothing more is to be said. -/
def done : ServiceReply := ⟨200, none⟩

/-- The request was carried out, with a value. -/
def found (value : Json) : ServiceReply := ⟨200, some value⟩

/-- The request was carried out; there is nothing to be said. -/
def noContent : ServiceReply := ⟨204, none⟩

/-- A part of the request cannot be read. -/
def unreadable : ServiceReply := ⟨400, none⟩

/-- The path offers nothing. -/
def unknownPath : ServiceReply := ⟨404, none⟩

/-- The path offers something, but not for this method. -/
def wrongMethod : ServiceReply := ⟨405, none⟩

end ServiceReply

/-- Why a request is not carried out. -/
inductive ServiceError where
  | validation (e : ValidationError)
  | brokenToken (e : DecodeError)
  | notFound (what : String)
  | token (e : EncodeError)
  | provider (e : ProviderError)
deriving DecidableEq, Repr, Inhabited

namespace ServiceError

/-- A failure behind the service. What is not found there is not found here. -/
def ofProvider : ProviderError → ServiceError
  | .notFound what => notFound what
  | e => provider e

/-- The status of the reply. -/
def status : ServiceError → Nat
  | validation _ | brokenToken _ => 400
  | notFound _ => 404
  | token _ | provider _ => 500

/-- The text shown to a user. Nothing is told about why a token is broken. -/
def message : ServiceError → String
  | validation e => e.message
  | brokenToken _ => "Uri is broken"
  | notFound what => what
  | token _ => "Download uri could not be created"
  | provider e => e.message

/-- The reply that tells the error. -/
def toReply (e : ServiceError) : ServiceReply :=
  ⟨e.status, some (.obj [("message", .str e.message)])⟩

end ServiceError

end DocSearch
