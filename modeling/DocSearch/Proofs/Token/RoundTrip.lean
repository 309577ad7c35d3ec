import Mathlib
import DocSearch.Proofs.Json.Reread
import DocSearch.Proofs.Service.Route
import DocSearch.Proofs.Token.Base64
import DocSearch.Proofs.Token.Sealed
import DocSearch.Token.Basic
/-!
# Tokens read back

* `idOf_payload`: an id is read back from its message, `idOf_ne_empty`: and no message holds the
  empty id.
* `encode_eq_ok`: what the token of an id is.
* `decode_of_decoded`, `decode_pad`: what a token says; blanks around it do not matter.
* **`decode_encode`**: every id with a token is read back from it, also through an address.
-/

namespace DocSearch.Codec

/-! ## Messages -/

theorem idOf_payload {fileId : String} (h : fileId ≠ "") : idOf (payload fileId) = .ok fileId := by
  have hr : readPayload ((Json.obj [("fileId", .str fileId)]).reread Form.depthLimit) =
      some fileId := rfl
  rw [idOf, payload, Form.parse?_render, Option.bind_some, hr]
  exact if_neg h

theorem idOf_ne_empty (message : List UInt8) : idOf message ≠ .ok "" := by
  unfold idOf
  split
  · split_ifs with h
    · simp
    · simpa using h
  · simp

/-! ## Tokens -/

theorem encode_eq_ok (c : Codec) (nonce : Nonce) {fileId : String} (h : fileId ≠ "")
    (hlen : (payload fileId).length < 64 * 0xFFFFFFFF) :
    ∃ closed, Sealed.close c.key nonce.bytes associatedData (payload fileId) = some closed ∧
      c.encode nonce fileId = .ok (.ofList (Base64.encode (nonce.bytes ++ closed))) := by
  have hlong : Sealed.tooLong (payload fileId).length = false := by
    unfold Sealed.tooLong
    exact decide_eq_false (by omega)
  have hc : ∃ closed, Sealed.close c.key nonce.bytes associatedData (payload fileId) =
      some closed := by
    unfold Sealed.close
    rw [if_neg (Bool.eq_false_iff.mp hlong)]
    exact ⟨_, rfl⟩
  obtain ⟨closed, hc⟩ := hc
  refine ⟨closed, hc, ?_⟩
  rw [encode, if_neg h, hc]

theorem decode_of_decoded {c : Codec} {nonce : Nonce} {closed : List UInt8} {token : String}
    (h : Base64.decode? (Text.trimChars token.toList) = some (nonce.bytes ++ closed))
    (hc : Sealed.tagLength ≤ closed.length) :
    c.decode token = match Sealed.open? c.key nonce.bytes associatedData closed with
      | none => .error .tampered
      | some message => idOf message := by
  have hlen : ¬ (nonce.bytes ++ closed).length < Nonce.length + Sealed.tagLength := by
    rw [List.length_append, nonce.length_bytes, Nonce.length]
    omega
  have htake : (nonce.bytes ++ closed).take Nonce.length = nonce.bytes :=
    List.take_left' nonce.length_bytes
  have hdrop : (nonce.bytes ++ closed).drop Nonce.length = closed :=
    List.drop_left' nonce.length_bytes
  have hread : c.decode token = match Sealed.open? c.key
      ((nonce.bytes ++ closed).take Nonce.length) associatedData
      ((nonce.bytes ++ closed).drop Nonce.length) with
        | none => .error .tampered
        | some message => idOf message := by
    rw [decode, h]
    exact if_neg hlen
  rw [hread, htake, hdrop]

theorem decode_pad {c : Codec} {nonce : Nonce} {message closed : List UInt8}
    (h : Sealed.close c.key nonce.bytes associatedData message = some closed)
    {before after : String} (hb : ∀ a ∈ before.toList, Text.isBlank a = true)
    (ha : ∀ a ∈ after.toList, Text.isBlank a = true) :
    c.decode (before ++ .ofList (Base64.encode (nonce.bytes ++ closed)) ++ after) =
      idOf message := by
  have htrim : Text.trimChars
      (before ++ .ofList (Base64.encode (nonce.bytes ++ closed)) ++ after).toList =
        Base64.encode (nonce.bytes ++ closed) := by
    rw [String.toList_append, String.toList_append, String.toList_ofList]
    exact Text.trimChars_pad hb ha fun _ hd => (Base64.isDigit_of_mem_encode _ hd).isBlank
  have hlen := Sealed.length_close h
  have hd := Base64.decode?_encode (nonce.bytes ++ closed)
  rw [← htrim] at hd
  rw [decode_of_decoded hd (by omega), Sealed.open?_close h]

theorem ofList_encode_ne_empty (nonce : Nonce) (closed : List UInt8) :
    String.ofList (Base64.encode (nonce.bytes ++ closed)) ≠ "" := by
  intro h
  have h' : Base64.encode (nonce.bytes ++ closed) = [] := by
    rw [← @String.toList_ofList (Base64.encode (nonce.bytes ++ closed)), h]
    rfl
  have hd := Base64.decode?_encode (nonce.bytes ++ closed)
  rw [h', Base64.decode?] at hd
  have hlen := congrArg List.length (Option.some.inj hd)
  rw [List.length_append, nonce.length_bytes, List.length_nil] at hlen
  omega

theorem isPlain_of_isDigit {a : Char} (h : Base64.IsDigit a) : IsPlain a := by
  refine ⟨?_, ?_, ?_, ?_⟩ <;>
  · rintro rfl
    exact absurd h (by decide)

theorem decode_ne_empty (c : Codec) (token : String) : c.decode token ≠ .ok "" := by
  unfold decode
  split
  · simp
  · split_ifs
    · simp
    · split
      · simp
      · exact idOf_ne_empty _

/-- **Every id is read back from its token**, also when blanks stand around it and when it is a
segment of an address. The empty id is never read. -/
theorem decode_encode (secret : String) :
    (∀ (nonce : Nonce) (fileId : String), fileId ≠ "" →
      (payload fileId).length < 64 * 0xFFFFFFFF →
        ∃ token, (ofSecret secret).encode nonce fileId = .ok token ∧
          (∀ c ∈ token.toList, Base64.IsDigit c) ∧
          (Operation.offered (RequestTarget.ofText ("/api/files/" ++ token)).path).lookup "GET" =
            some (.fileOfToken token) ∧
          (Operation.fileOfToken token).decoded? = some (.fileOfToken token) ∧
          ∀ before after : String, (∀ a ∈ before.toList, Text.isBlank a = true) →
            (∀ a ∈ after.toList, Text.isBlank a = true) →
              (ofSecret secret).decode (before ++ token ++ after) = .ok fileId) ∧
      ∀ token, (ofSecret secret).decode token ≠ .ok "" := by
  refine ⟨fun nonce fileId h hlen => ?_, decode_ne_empty _⟩
  obtain ⟨closed, hc, he⟩ := encode_eq_ok (ofSecret secret) nonce h hlen
  have hd : ∀ a ∈ (String.ofList (Base64.encode (nonce.bytes ++ closed))).toList,
      Base64.IsDigit a := by
    rw [String.toList_ofList]
    exact Base64.isDigit_of_mem_encode
  have hr := Operation.offered_file (fun a ha => isPlain_of_isDigit (hd a ha))
    (ofList_encode_ne_empty nonce closed)
  refine ⟨_, he, hd, hr.1, hr.2, fun before after hb ha => ?_⟩
  rw [decode_pad hc hb ha, idOf_payload h]

/-- An id with a quote, a backslash and a line end in it, under the nonce of zeros. -/
theorem decode_encode_escaped :
    "a\"\\\n" ≠ "" ∧ (payload "a\"\\\n").length < 64 * 0xFFFFFFFF ∧
      ∃ token, (ofSecret "secret").encode (Nonce.ofNat 0) "a\"\\\n" = .ok token ∧
        (ofSecret "secret").decode (" " ++ token ++ "\n") = .ok "a\"\\\n" := by
  have hne : "a\"\\\n" ≠ "" := by decide
  have hlen : (payload "a\"\\\n").length < 64 * 0xFFFFFFFF := by
    rw [payload, Form.bytes_render, Json.bytes_quote, Json.bytes_quote]
    decide
  obtain ⟨token, he, -, -, -, hd⟩ := (decode_encode "secret").1 (Nonce.ofNat 0) _ hne hlen
  exact ⟨hne, hlen, token, he, hd " " "\n" (by simp [Text.isBlank]) (by simp [Text.isBlank])⟩

end DocSearch.Codec
