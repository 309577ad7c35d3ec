import Mathlib
import DocSearch.Proofs.Assoc
import DocSearch.Proofs.Http.Percent
import DocSearch.Service.Route
/-!
# Segments of a path

* `IsPlain`: characters that no reader of an address takes for anything but themselves.
* `decodeText?_of_plain`: a segment of them stands for itself.
* `lookup_addTag_iff`, `lookup_removeTag_iff`, `lookup_addServiceTag_iff`: the one path and method of each
  change of a tag; `decoded?_addTag_iff`, …: its texts are decoded one by one.
* **`offered_file`**: a path that ends with such a segment behind `/api/files/` asks for the file of
  that token.
-/

namespace DocSearch

/-- The character ends no segment, path or target, and starts no percent code. -/
def IsPlain (c : Char) : Prop := c ≠ '/' ∧ c ≠ '?' ∧ c ≠ '#' ∧ c ≠ '%'

namespace Operation

theorem decodeText?_eq_some_iff {s t : String} :
    decodeText? s = some t ↔ Percent.decode s.toList = Text.bytes t :=
  Text.ofBytes?_eq_some_iff

theorem decodeText?_of_plain {s : String} (h : ∀ c ∈ s.toList, IsPlain c) :
    decodeText? s = some s := by
  have hc := Percent.codes_eq_zero_of_not_mem fun hm => (h _ hm).2.2.2 rfl
  rw [decodeText?_eq_some_iff, Percent.decode_of_codes_eq_zero hc, Text.bytes_eq_flatMap]

/-! ## Changes of tags -/

section Changes

variable {path : List String} {method file type name : String} {op : Operation}

theorem lookup_addTag_iff : (offeredBy path).lookup method = some (.addTag file type name) ↔
    method = "POST" ∧ path = ["api", "tags", file, type, name] := by
  constructor
  · intro h
    have hm := Assoc.mem_of_lookup h
    clear h
    unfold offeredBy at hm
    split at hm
    all_goals simp_all
  · rintro ⟨rfl, rfl⟩
    simp [offeredBy]

theorem lookup_removeTag_iff : (offeredBy path).lookup method = some (.removeTag file type name) ↔
    method = "DELETE" ∧ path = ["api", "tags", file, type, name] := by
  constructor
  · intro h
    have hm := Assoc.mem_of_lookup h
    clear h
    unfold offeredBy at hm
    split at hm
    all_goals simp_all
  · rintro ⟨rfl, rfl⟩
    simp [offeredBy, List.lookup_cons]

theorem lookup_addServiceTag_iff :
    (offeredBy path).lookup method = some (.addServiceTag file type name) ↔
      method = "POST" ∧ path = ["api", "tags", "service", file, type, name] := by
  constructor
  · intro h
    have hm := Assoc.mem_of_lookup h
    clear h
    unfold offeredBy at hm
    split at hm
    all_goals simp_all
  · rintro ⟨rfl, rfl⟩
    simp [offeredBy]

theorem decoded?_addTag_iff : op.decoded? = some (.addTag file type name) ↔
    ∃ f t n, op = .addTag f t n ∧ decodeText? f = some file ∧ decodeText? t = some type ∧
      decodeText? n = some name := by
  cases op
  all_goals simp [decoded?, Option.bind_eq_some_iff, and_assoc]

theorem decoded?_removeTag_iff : op.decoded? = some (.removeTag file type name) ↔
    ∃ f t n, op = .removeTag f t n ∧ decodeText? f = some file ∧ decodeText? t = some type ∧
      decodeText? n = some name := by
  cases op
  all_goals simp [decoded?, Option.bind_eq_some_iff, and_assoc]

theorem decoded?_addServiceTag_iff : op.decoded? = some (.addServiceTag file type name) ↔
    ∃ f t n, op = .addServiceTag f t n ∧ decodeText? f = some file ∧ decodeText? t = some type ∧
      decodeText? n = some name := by
  cases op
  all_goals simp [decoded?, Option.bind_eq_some_iff, and_assoc]

end Changes

end Operation

namespace RequestTarget

theorem ofText_of_plain {s : String} (h : ∀ c ∈ s.toList, c ≠ '#' ∧ c ≠ '?') :
    ofText s = ⟨segments s.toList, []⟩ := by
  have hh : s.toList.takeWhile (· ≠ '#') = s.toList :=
    List.takeWhile_eq_self_iff.mpr (Percent.forall_ne_of_not_mem fun hm => (h _ hm).1 rfl)
  rw [ofText, hh, Percent.splitAt_of_not_mem fun hm => (h _ hm).2 rfl]

theorem path_file {token : String} (h : ∀ c ∈ token.toList, IsPlain c) :
    (ofText ("/api/files/" ++ token)).path = ["api", "files", token] := by
  have e : ("/api/files/" ++ token).toList =
      '/' :: (['a', 'p', 'i'] ++ '/' :: (['f', 'i', 'l', 'e', 's'] ++ '/' :: token.toList)) := by
    rw [String.toList_append]
    rfl
  have hplain : ∀ c ∈ ("/api/files/" ++ token).toList, c ≠ '#' ∧ c ≠ '?' := by
    rw [e]
    simpa using fun c hc => ⟨(h c hc).2.2.1, (h c hc).2.1⟩
  rw [ofText_of_plain hplain, e, segments,
    List.splitOnP_append_cons_of_forall_mem (by simp) '/' rfl,
    List.splitOnP_append_cons_of_forall_mem (by simp) '/' rfl,
    List.splitOnP_eq_singleton fun c hc => by simpa using (h c hc).1]
  simp only [List.map_cons, List.map_nil, String.ofList_toList]

end RequestTarget

/-- **A plain segment behind `/api/files/` is a token as it stands.** -/
theorem Operation.offered_file {token : String} (h : ∀ c ∈ token.toList, IsPlain c)
    (hne : token ≠ "") :
    (offered (RequestTarget.ofText ("/api/files/" ++ token)).path).lookup "GET" =
        some (.fileOfToken token) ∧
      (fileOfToken token).decoded? = some (.fileOfToken token) := by
  have hpath : "" ∉ ["api", "files", token] := by simpa using hne.symm
  constructor
  · rw [RequestTarget.path_file h, offered, if_neg hpath]
    simp [offeredBy]
  · rw [decoded?, decodeText?_of_plain h]
    rfl

end DocSearch
