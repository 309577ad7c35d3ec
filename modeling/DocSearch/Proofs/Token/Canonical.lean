import Mathlib
import DocSearch.Proofs.Token.RoundTrip
/-!
# Tokens are canonical

A token that is accepted is the token that its own message has under its own nonce. So nothing about
an accepted token can be changed without changing the nonce or the message: not its tag, and not how
its bytes are spelled.

* `Base64.looseDecode?`: a reader who takes all usual spellings of bytes.
* `Codec.Opens`: a token holds a nonce and a sealed message, which is opened.
* `decode_eq_ok_iff`: what it takes for a token to be accepted.
* **`decode_canonical`**: an accepted token is the one spelling of the one sealed form of its
  message.
-/

namespace DocSearch

namespace Base64

/-! ## Other spellings -/

/-- The character that stands for the same digit in the alphabet for addresses. -/
def addressLetter (c : Char) : Char := if c = '+' then '-' else if c = '/' then '_' else c

/-- The bytes of digits. Bits that are left over are dropped, whatever they are. -/
def bytesOf? : List Nat → Option (List UInt8)
  | [] => some []
  | [_] => none
  | [x, y] => some [UInt8.ofNat ((x * 64 + y) / 16)]
  | [x, y, z] =>
    let n := (x * 64 + y) * 64 + z
    some [UInt8.ofNat (n / 1024), UInt8.ofNat (n / 4 % 256)]
  | x :: y :: z :: v :: rest =>
    let n := ((x * 64 + y) * 64 + z) * 64 + v
    (bytesOf? rest).map fun bytes =>
      UInt8.ofNat (n / 65536) :: UInt8.ofNat (n / 256 % 256) :: UInt8.ofNat (n % 256) :: bytes

/-- The bytes of characters for a reader who passes over blanks and padding, takes both alphabets,
and does not look at bits that are left over. -/
def looseDecode? (cs : List Char) : Option (List UInt8) :=
  let letters := (cs.filter fun c => !(Text.isBlank c || c == '=')).map addressLetter
  (letters.mapM value?).bind bytesOf?

theorem bytesOf?_of_decode? {cs : List Char} {bs : List UInt8} (h : decode? cs = some bs) :
    (cs.mapM value?).bind bytesOf? = some bs := by
  fun_induction decode? cs generalizing bs with
  | case1 => exact h
  | case2 => simp at h
  | case3 a b =>
    simp only [Option.bind_eq_bind, Option.bind_eq_some_iff] at h
    obtain ⟨x, hx, y, hy, h⟩ := h
    split_ifs at h
    simpa [List.mapM_cons, hx, hy, bytesOf?] using h
  | case4 a b c =>
    simp only [Option.bind_eq_bind, Option.bind_eq_some_iff] at h
    obtain ⟨x, hx, y, hy, z, hz, h⟩ := h
    split_ifs at h
    simpa [List.mapM_cons, hx, hy, hz, bytesOf?] using h
  | case5 a b c d rest ih =>
    simp only [Option.bind_eq_bind, Option.bind_eq_some_iff, Option.pure_def] at h
    obtain ⟨x, hx, y, hy, z, hz, v, hv, bytes, hb, h⟩ := h
    obtain ⟨ns, hns, hbytes⟩ := Option.bind_eq_some_iff.mp (ih hb)
    simpa [List.mapM_cons, hx, hy, hz, hv, hns, bytesOf?, hbytes] using h

theorem IsDigit.addressLetter {c : Char} (h : IsDigit c) : addressLetter c = c := by
  have hp : c ≠ '+' := by
    rintro rfl
    exact absurd h (by decide)
  have hs : c ≠ '/' := by
    rintro rfl
    exact absurd h (by decide)
  rw [Base64.addressLetter, if_neg hp, if_neg hs]

theorem looseDecode?_encode (bs : List UInt8) : looseDecode? (encode bs) = some bs := by
  have hd : ∀ c ∈ encode bs, IsDigit c := isDigit_of_mem_encode
  have hf : (encode bs).filter (fun c => !(Text.isBlank c || c == '=')) = encode bs := by
    refine List.filter_eq_self.mpr fun c hc => ?_
    have he : c ≠ '=' := by
      rintro rfl
      exact absurd (hd _ hc) (by decide)
    simp [(hd c hc).isBlank, he]
  have hm : (encode bs).map addressLetter = encode bs :=
    (List.map_congr_left fun c hc => (hd c hc).addressLetter).trans (List.map_id' _)
  rw [looseDecode?, hf, hm, bytesOf?_of_decode? (decode?_encode bs)]

theorem looseDecode?_concat (cs : List Char) : looseDecode? (cs ++ ['=']) = looseDecode? cs := by
  simp [looseDecode?, List.filter_append]

end Base64

namespace Codec

variable {c : Codec} {token id : String} {nonce : Nonce} {closed message : List UInt8}

/-! ## Accepted tokens -/

/-- The token holds the nonce and a sealed message, which is opened. -/
structure Opens (c : Codec) (token : String) (nonce : Nonce) (closed message : List UInt8) :
    Prop where
  decoded : Base64.decode? (Text.trimChars token.toList) = some (nonce.bytes ++ closed)
  opened : Sealed.open? c.key nonce.bytes associatedData closed = some message

/-- **A token is accepted when it opens to the message of an id.** -/
theorem decode_eq_ok_iff :
    c.decode token = .ok id ↔ ∃ nonce closed message, c.Opens token nonce closed message ∧
      idOf message = .ok id := by
  constructor
  · intro h
    unfold decode at h
    split at h
    · simp at h
    · rename_i raw hraw
      split_ifs at h with hlen
      split at h
      · simp at h
      · rename_i message hopen
        have hn : (raw.take Nonce.length).length = 12 := by
          rw [List.length_take, Nonce.length]
          rw [Nonce.length] at hlen
          omega
        refine ⟨⟨raw.take Nonce.length, hn⟩, raw.drop Nonce.length, message, ⟨?_, hopen⟩, h⟩
        rw [hraw, List.take_append_drop]
  · rintro ⟨nonce, closed, message, ho, hid⟩
    have hc := Sealed.length_close (Sealed.open?_eq_some_iff.mp ho.opened)
    rw [decode_of_decoded ho.decoded (by omega), ho.opened]
    exact hid

theorem Opens.trim_eq (h : c.Opens token nonce closed message) :
    Text.trim token = .ofList (Base64.encode (nonce.bytes ++ closed)) := by
  rw [Text.trim, Base64.decode?_eq_some_iff.mp h.decoded]

theorem Opens.closes (h : c.Opens token nonce closed message) :
    Sealed.close c.key nonce.bytes associatedData message = some closed :=
  Sealed.open?_eq_some_iff.mp h.opened

/-- Nonce and message leave no choice. -/
theorem Opens.trim_unique {token' : String} {closed' : List UInt8}
    (h : c.Opens token nonce closed message) (h' : c.Opens token' nonce closed' message) :
    Text.trim token' = Text.trim token := by
  obtain rfl := Option.some.inj (h.closes.symm.trans h'.closes)
  rw [h.trim_eq, h'.trim_eq]

theorem Opens.tampered {encrypted tag tag' : List UInt8} {token' : String}
    (h : c.Opens token nonce (encrypted ++ tag) message) (ht : tag.length = Sealed.tagLength)
    (ht' : tag'.length = Sealed.tagLength) (hne : tag' ≠ tag)
    (hd : Base64.decode? (Text.trimChars token'.toList) =
      some (nonce.bytes ++ (encrypted ++ tag'))) :
    c.decode token' = .error .tampered := by
  have hright : ∀ t : List UInt8, t.length = Sealed.tagLength → ∀ m,
      Sealed.open? c.key nonce.bytes associatedData (encrypted ++ t) = some m →
        t = Sealed.tagOf c.key nonce.bytes associatedData encrypted := by
    intro t hlen m ho
    obtain ⟨e, he, -, -⟩ := Sealed.open?_cases ho
    have hl : encrypted.length = e.length := by
      have := congrArg List.length he
      rw [List.length_append, List.length_append, Sealed.length_tagOf] at this
      omega
    obtain ⟨rfl, rfl⟩ := List.append_inj he hl
    rfl
  rw [decode_of_decoded hd (by rw [List.length_append]; omega)]
  cases ho : Sealed.open? c.key nonce.bytes associatedData (encrypted ++ tag') with
  | none => rfl
  | some m => exact absurd ((hright tag' ht' m ho).trans (hright tag ht _ h.opened).symm) hne

theorem Opens.respelled {token' : String} (h : c.Opens token nonce closed message)
    (hd : Base64.looseDecode? (Text.trimChars token'.toList) = some (nonce.bytes ++ closed))
    (hne : Text.trim token' ≠ Text.trim token) : c.decode token' = .error .encoding := by
  unfold decode
  cases hr : Base64.decode? (Text.trimChars token'.toList) with
  | none => rfl
  | some raw =>
    have hraw := Base64.decode?_eq_some_iff.mp hr
    rw [hraw, Base64.looseDecode?_encode] at hd
    obtain rfl := Option.some.inj hd
    refine absurd ?_ hne
    rw [h.trim_eq, Text.trim, hraw]

/-- **Accepted tokens are canonical.** Nonce and message of an accepted token, sealed and spelled
again, give the token back. Every other text is rejected that holds the same nonce and message, has
another tag behind the same encrypted message, or spells the same bytes in another way. -/
theorem decode_canonical (secret token id : String) (h : (ofSecret secret).decode token = .ok id) :
    ∃ (nonce : Nonce) (encrypted tag message : List UInt8),
      (ofSecret secret).Opens token nonce (encrypted ++ tag) message ∧
      tag.length = Sealed.tagLength ∧ idOf message = .ok id ∧
      Sealed.close (ofSecret secret).key nonce.bytes associatedData message =
        some (encrypted ++ tag) ∧
      Text.trim token = .ofList (Base64.encode (nonce.bytes ++ (encrypted ++ tag))) ∧
      (∀ token' closed', (ofSecret secret).Opens token' nonce closed' message →
        Text.trim token' = Text.trim token) ∧
      (∀ token' tag', tag'.length = Sealed.tagLength → tag' ≠ tag →
        Base64.decode? (Text.trimChars token'.toList) =
            some (nonce.bytes ++ (encrypted ++ tag')) →
          (ofSecret secret).decode token' = .error .tampered) ∧
      ∀ token', Base64.looseDecode? (Text.trimChars token'.toList) =
          some (nonce.bytes ++ (encrypted ++ tag)) → Text.trim token' ≠ Text.trim token →
        (ofSecret secret).decode token' = .error .encoding := by
  obtain ⟨nonce, closed, message, ho, hid⟩ := decode_eq_ok_iff.mp h
  obtain ⟨encrypted, rfl, -, -⟩ := Sealed.open?_cases ho.opened
  have ht := Sealed.length_tagOf (ofSecret secret).key nonce.bytes associatedData encrypted
  exact ⟨nonce, encrypted, _, message, ho, ht, hid, ho.closes, ho.trim_eq,
    fun _ _ h' => ho.trim_unique h', fun _ _ ht' hne hd => ho.tampered ht ht' hne hd,
    fun _ hd hne => ho.respelled hd hne⟩

/-- A token with a padding sign behind it. -/
theorem decode_canonical_padded :
    ∃ token, (ofSecret "secret").decode token = .ok "a" ∧
      (ofSecret "secret").decode (token ++ "=") = .error .encoding := by
  have hlen : (payload "a").length < 64 * 0xFFFFFFFF := by
    rw [payload, Form.bytes_render, Json.bytes_quote, Json.bytes_quote]
    decide
  obtain ⟨closed, hc, -⟩ := encode_eq_ok (ofSecret "secret") (Nonce.ofNat 0) (by decide) hlen
  set cs := Base64.encode ((Nonce.ofNat 0).bytes ++ closed) with hcs
  have hblank : ∀ d ∈ cs, Text.isBlank d = false := fun d hd =>
    (Base64.isDigit_of_mem_encode d hd).isBlank
  have hok : (ofSecret "secret").decode (.ofList cs) = .ok "a" := by
    have hb : ∀ a ∈ "".toList, Text.isBlank a = true := by simp
    have hd := decode_pad hc hb hb
    rwa [String.empty_append, String.append_empty, idOf_payload (by decide)] at hd
  obtain ⟨nonce, encrypted, tag, message, ho, -, -, -, ht, -, -, hrespelled⟩ :=
    decode_canonical "secret" _ _ hok
  have hcs' : cs = Base64.encode (nonce.bytes ++ (encrypted ++ tag)) := by
    have hd := Base64.decode?_eq_some_iff.mp ho.decoded
    rwa [String.toList_ofList, Text.trimChars_eq_self hblank] at hd
  have htrim : Text.trimChars (String.ofList cs ++ "=").toList = cs ++ ['='] := by
    rw [String.toList_append, String.toList_ofList]
    refine Text.trimChars_eq_self fun d hd => ?_
    rcases List.mem_append.mp hd with hd | hd
    · exact hblank d hd
    · rw [List.mem_singleton.mp hd]
      decide
  refine ⟨.ofList cs, hok, hrespelled _ ?_ ?_⟩
  · rw [htrim, Base64.looseDecode?_concat, hcs', Base64.looseDecode?_encode]
  · rw [ht, Text.trim, htrim, ← hcs']
    intro he
    have hl := congrArg String.length he
    rw [String.length_ofList, String.length_ofList, List.length_append, List.length_singleton] at hl
    omega

end Codec

end DocSearch
