import Mathlib
import DocSearch.Text.Utf8
/-!
# Texts as bytes

* `bytes_ofList`, `bytes_append`: the bytes of a text, character by character.
* **`ofBytes?_bytes`**: a text is read back from its bytes, and by `ofBytes?_eq_some_iff` from no
  others.
* `utf8EncodeChar_cases`: a character is one byte below `0x80`, or has no such byte.
-/

namespace DocSearch.Text

theorem toList_loop (bs : ByteArray) (i : Nat) (acc : List UInt8) :
    ByteArray.toList.loop bs i acc = acc.reverse ++ bs.data.toList.drop i := by
  fun_induction ByteArray.toList.loop bs i acc with
  | case1 i acc h ih =>
    have h' : i < bs.data.toList.length := by simpa using h
    have hi : bs.get! i = bs.data.toList[i] := by
      simp [ByteArray.get!, getElem!_pos bs.data i (by simpa using h)]
    rw [ih, List.drop_eq_getElem_cons h', List.reverse_cons, List.append_assoc, hi]
    rfl
  | case2 i acc h =>
    rw [List.drop_of_length_le (by simpa using h), List.append_nil]

theorem toList_eq_data (bs : ByteArray) : bs.toList = bs.data.toList := by
  rw [ByteArray.toList, toList_loop, List.reverse_nil, List.nil_append, List.drop_zero]

theorem toByteArray_toList (bs : ByteArray) : bs.toList.toByteArray = bs := by
  apply ByteArray.ext
  apply Array.toList_inj.mp
  rw [List.toList_data_toByteArray, toList_eq_data]

theorem bytes_ofList (cs : List Char) : bytes (.ofList cs) = cs.flatMap String.utf8EncodeChar := by
  rw [bytes, String.toUTF8_eq_toByteArray, String.toByteArray_ofList, List.utf8Encode,
    toList_eq_data, List.toList_data_toByteArray]

theorem bytes_eq_flatMap (s : String) : bytes s = s.toList.flatMap String.utf8EncodeChar := by
  rw [← bytes_ofList, String.ofList_toList]

theorem bytes_append (s t : String) : bytes (s ++ t) = bytes s ++ bytes t := by
  rw [bytes_eq_flatMap, bytes_eq_flatMap, bytes_eq_flatMap, String.toList_append,
    List.flatMap_append]

/-- **A text is read back from its bytes.** -/
theorem ofBytes?_bytes (s : String) : ofBytes? (bytes s) = some s := by
  unfold ofBytes? bytes
  rw [toByteArray_toList, String.toUTF8_eq_toByteArray, String.fromUTF8?, dif_pos s.isValidUTF8]
  rfl

theorem ofBytes?_eq_some_iff {bs : List UInt8} {s : String} :
    ofBytes? bs = some s ↔ bs = bytes s := by
  constructor
  · intro h
    unfold ofBytes? String.fromUTF8? at h
    split_ifs at h with hv
    cases h
    rw [bytes, String.toUTF8_eq_toByteArray, toList_eq_data]
    exact (List.toList_data_toByteArray).symm
  · rintro rfl
    exact ofBytes?_bytes s

theorem eq_of_sublist_of_length {cs ds : List Char} (h : cs.Sublist ds)
    (hl : (ds.flatMap String.utf8EncodeChar).length ≤ (cs.flatMap String.utf8EncodeChar).length) :
    cs = ds := by
  induction h with
  | slnil => rfl
  | @cons cs ds c h _ =>
    have hle := (h.flatMap String.utf8EncodeChar).length_le
    have hc := List.length_pos_iff.mpr (String.utf8EncodeChar_ne_nil (c := c))
    rw [List.flatMap_cons, List.length_append] at hl
    omega
  | cons_cons c h ih =>
    rw [List.flatMap_cons, List.flatMap_cons, List.length_append, List.length_append] at hl
    rw [ih (by omega)]

theorem utf8EncodeChar_cases (c : Char) :
    (c.toNat < 0x80 ∧ String.utf8EncodeChar c = [UInt8.ofNat c.toNat]) ∨
      (0x80 ≤ c.toNat ∧ ∀ b ∈ String.utf8EncodeChar c, 0x80 ≤ b.toNat) := by
  have hb : ∀ k m : Nat, k < 0x80 → 0x80 ≤ m → m + k < 0x100 → 0x80 ≤ (UInt8.ofNat (k + m)).toNat := by
    intro k m _ _ _
    rw [UInt8.toNat_ofNat_of_lt' (by change k + m < 256; omega)]
    omega
  unfold String.utf8EncodeChar
  by_cases h : c.toNat < 0x80
  · exact .inl ⟨h, if_pos (Nat.le_of_lt_succ h)⟩
  · refine .inr ⟨Nat.le_of_not_lt h, ?_⟩
    dsimp only
    split_ifs with h₁ h₂ h₃
    · exact absurd (Nat.lt_succ_of_le h₁) h
    all_goals
      intro b hm
      simp only [List.mem_cons, List.not_mem_nil, or_false] at hm
    · rcases hm with rfl | rfl <;> apply hb <;> omega
    · rcases hm with rfl | rfl | rfl <;> apply hb <;> omega
    · rcases hm with rfl | rfl | rfl | rfl <;> apply hb <;> omega

end DocSearch.Text
