/-!
# Errors

* `ValidationError` — input that is refused before anything is done with it.
* `DecodeError`, `EncodeError` — a download token that cannot be read or made.
* `ProviderError` — a failure of the search backend, the cache or the tag index.

Each has a `message`, the text shown to a user.
-/

namespace DocSearch

/-- Input that is refused before anything is done with it. -/
inductive ValidationError where
  | missingField (name : String)
  | invalidTagType (text : String)
  | tagTypeNotAllowed (type : String)
  | invalidTagName (name : String)
  | invalidPage
  | invalidSize
  | emptyQuery
deriving DecidableEq, Repr, Inhabited

/-- The text shown to a user. -/
def ValidationError.message : ValidationError → String
  | missingField name => "Required field is missing: " ++ name
  | invalidTagType text => "Invalid tag type: " ++ text
  | tagTypeNotAllowed type => "Tag type " ++ type ++ " cannot be changed from here"
  | invalidTagName name => "Invalid tag name: " ++ name
  | invalidPage => "Page is invalid"
  | invalidSize => "Size is invalid"
  | emptyQuery => "Query is empty"

/-- Why a download token cannot be turned back into a file id. -/
inductive DecodeError where
  | encoding
  | truncated
  | tampered
  | payload
deriving DecidableEq, Repr, Inhabited

/-- The text shown to a user. -/
def DecodeError.message : DecodeError → String
  | encoding => "token is not valid base64"
  | truncated => "token is too short"
  | tampered => "token failed authentication"
  | payload => "token payload is malformed"

/-- Why a file id cannot be turned into a download token. -/
inductive EncodeError where
  | emptyId
  | cipher
deriving DecidableEq, Repr, Inhabited

/-- The text shown to a user. -/
def EncodeError.message : EncodeError → String
  | emptyId => "file id is empty"
  | cipher => "token encryption failed"

/-- A failure of the search backend, the cache or the tag index. -/
inductive ProviderError where
  | http
  | backend (status : Nat) (body : String)
  | malformed
  | notFound (what : String)
  | other (text : String)
deriving DecidableEq, Repr, Inhabited

/-- The text shown to a user. -/
def ProviderError.message : ProviderError → String
  | http => "search backend request failed"
  | backend status body => "search backend returned " ++ toString status ++ ": " ++ body
  | malformed => "malformed provider response"
  | notFound what => "not found: " ++ what
  | other text => text

end DocSearch
