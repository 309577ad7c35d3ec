import Mathlib
import DocSearch.Token.Sealed
/-!
# Sealed messages opened

* `length_keystream`: the keystream is as long as it is asked for.
* `cipher_cipher`: combining a message twice gives it back.
* `length_tagOf`: every tag has its sixteen bytes.
* **`open?_close`**: what was closed is opened under the same key, nonce and data.
* **`open?_eq_some_iff`**: what is opened was closed, tag and all.
-/

namespace DocSearch

theorem Bytes.length_little (n x : Nat) : (Bytes.little n x).length = n := by
  induction n generalizing x with
  | zero => rfl
  | succ n ih => rw [little, List.length_cons, ih]

namespace ChaCha20

theorem length_block (key nonce : List UInt8) (counter : Nat) :
    (block key nonce counter).length = 64 := by
  simp only [block, List.length_flatMap, Bytes.length_little]
  rfl

theorem length_keystream (key nonce : List UInt8) (n : Nat) :
    (keystream key nonce n).length = n := by
  have h : ((List.range ((n + 63) / 64)).flatMap fun i => block key nonce (i + 1)).length =
      (n + 63) / 64 * 64 := by
    simp [List.length_flatMap, length_block]
  rw [keystream, List.length_take, h]
  omega

theorem length_cipher (key nonce message : List UInt8) :
    (cipher key nonce message).length = message.length := by
  rw [cipher, List.length_zipWith, length_keystream, Nat.min_self]

theorem zipWith_xor_xor {a b : List UInt8} (h : a.length = b.length) :
    List.zipWith (· ^^^ ·) (List.zipWith (· ^^^ ·) a b) b = a := by
  induction a generalizing b with
  | nil => rfl
  | cons x a ih =>
    cases b with
    | nil => simp at h
    | cons y b =>
      have hxy : x ^^^ y ^^^ y = x := by rw [UInt8.xor_assoc, UInt8.xor_self, UInt8.xor_zero]
      rw [List.zipWith_cons_cons, List.zipWith_cons_cons, hxy, ih (Nat.succ.inj h)]

/-- **Combining a message with the keystream twice gives it back.** -/
theorem cipher_cipher (key nonce message : List UInt8) :
    cipher key nonce (cipher key nonce message) = message := by
  have h := length_cipher key nonce message
  rw [cipher, h, cipher]
  exact zipWith_xor_xor (length_keystream key nonce _).symm

end ChaCha20

namespace Sealed

theorem length_tagOf (key nonce data encrypted : List UInt8) :
    (tagOf key nonce data encrypted).length = tagLength :=
  Bytes.length_little 16 _

/-- **What was closed is opened** under the same key, nonce and data. -/
theorem open?_close {key nonce data message closed : List UInt8}
    (h : close key nonce data message = some closed) :
    open? key nonce data closed = some message := by
  unfold close at h
  split_ifs at h with hl
  obtain rfl := Option.some.inj h
  set encrypted := ChaCha20.cipher key nonce message with he
  have hn : (encrypted ++ tagOf key nonce data encrypted).length = encrypted.length + tagLength := by
    rw [List.length_append, length_tagOf]
  have hlong : tooLong encrypted.length = false := by
    rw [he, ChaCha20.length_cipher]
    exact Bool.eq_false_iff.mpr hl
  have hshort : ¬ encrypted.length + tagLength < tagLength := by omega
  unfold open?
  simp only [hn, Nat.add_sub_cancel, List.take_left, List.drop_left, hlong, hshort, decide_false,
    Bool.or_self, Bool.false_eq_true, if_false, if_true]
  rw [he, ChaCha20.cipher_cipher]

theorem length_close {key nonce data message closed : List UInt8}
    (h : close key nonce data message = some closed) :
    closed.length = message.length + tagLength := by
  unfold close at h
  split_ifs at h
  obtain rfl := Option.some.inj h
  rw [List.length_append, length_tagOf, ChaCha20.length_cipher]

theorem open?_cases {key nonce data closed message : List UInt8}
    (h : open? key nonce data closed = some message) :
    ∃ encrypted, closed = encrypted ++ tagOf key nonce data encrypted ∧
      tooLong encrypted.length = false ∧ message = ChaCha20.cipher key nonce encrypted := by
  unfold open? at h
  dsimp only at h
  split_ifs at h with hl ht
  rw [Bool.or_eq_true, not_or, Bool.not_eq_true, Bool.not_eq_true] at hl
  refine ⟨closed.take (closed.length - tagLength), ?_, hl.2, (Option.some.inj h).symm⟩
  rw [ht, List.take_append_drop]

/-- **What is opened was closed**, under the same key, nonce and data. -/
theorem open?_eq_some_iff {key nonce data closed message : List UInt8} :
    open? key nonce data closed = some message ↔ close key nonce data message = some closed := by
  refine ⟨fun h => ?_, open?_close⟩
  obtain ⟨encrypted, rfl, hl, rfl⟩ := open?_cases h
  rw [close, ChaCha20.length_cipher, if_neg (Bool.eq_false_iff.mp hl), ChaCha20.cipher_cipher]

end Sealed

end DocSearch
