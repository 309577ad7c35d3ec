import DocSearch.Error
import DocSearch.Json.Parser
import DocSearch.Json.Printer
import DocSearch.Json.Reader
import DocSearch.Text.Blank
import DocSearch.Token.Base64
import DocSearch.Token.Sealed
import DocSearch.Token.Sha256
/-!
# Download tokens

A token hides the id of a file from everybody who does not know the secret. It is the Base64 text of
a nonce and a sealed message, and nothing has to be kept to read it again.

* `Nonce` — twelve bytes that are used for one token only.
* `Codec` — what makes and reads tokens of one secret.
* `Codec.encode`, `Codec.decode` — from an id to a token and back.
-/

namespace DocSearch

/-- Twelve bytes. -/
structure Nonce where
  bytes : List UInt8
  length_bytes : bytes.length = 12

namespace Nonce

/-- The length of a nonce. -/
def length : Nat := 12

/-- The lowest twelve bytes of a number. -/
def ofNat (n : Nat) : Nonce := ⟨Bytes.little 12 n, by simp [Bytes.little]⟩

instance : Inhabited Nonce := ⟨ofNat 0⟩

end Nonce

/-- Makes and reads the tokens of one secret. -/
structure Codec where
  key : List UInt8
deriving DecidableEq, Repr, Inhabited

namespace Codec

/-- The codec of a secret. All who know the secret have the same one. -/
def ofSecret (secret : String) : Codec := ⟨Sha256.digest (Text.bytes secret)⟩

/-- What every token vouches for besides the id. -/
def associatedData : List UInt8 := Text.bytes "download-uri:v1"

/-- The message that holds an id. -/
def payload (fileId : String) : List UInt8 :=
  Text.bytes (Json.obj [("fileId", .str fileId)]).render

/-- The id that a message holds. -/
def readPayload : Reader String := fun f => do
  let r ← f.record? ["fileId"]
  r.required "fileId" Reader.text

/-- The token of an id under a nonce. An empty id has none, since it could never be read. -/
def encode (c : Codec) (nonce : Nonce) (fileId : String) : Except EncodeError String :=
  if fileId = "" then .error .emptyId
  else
    match Sealed.close c.key nonce.bytes associatedData (payload fileId) with
    | some closed => .ok (.ofList (Base64.encode (nonce.bytes ++ closed)))
    | none => .error .cipher

/-- The id of a message, which must not be empty. -/
def idOf (message : List UInt8) : Except DecodeError String :=
  match (Form.parse? message).bind readPayload with
  | some id => if id = "" then .error .payload else .ok id
  | none => .error .payload

/-- The id of a token. Blanks around the token are passed over. -/
def decode (c : Codec) (token : String) : Except DecodeError String :=
  match Base64.decode? (Text.trimChars token.toList) with
  | none => .error .encoding
  | some raw =>
    if raw.length < Nonce.length + Sealed.tagLength then .error .truncated
    else
      match Sealed.open? c.key (raw.take Nonce.length) associatedData (raw.drop Nonce.length) with
      | none => .error .tampered
      | some message => idOf message

end Codec

end DocSearch
