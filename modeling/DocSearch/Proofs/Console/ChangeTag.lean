import Mathlib
import DocSearch.Console.Basic
import DocSearch.Proofs.Http.Address
import DocSearch.Proofs.Service.Route
/-!
# The tag that the console changes

The console puts the names of a file and a tag into the text of an address, as they are.

* `root?`: the directory below which the service is found.
* `asked?`: what a service below a directory is asked to do.
* `StandsForItself`: the texts that can stand in a path unwritten.
* `offered_change_iff`: the paths that ask for a change of a tag.
* `steady_of_follow_tagPath`: names that arrive have lost nothing, as their bytes are all there.
* **`changeTag_asked_iff`**: the service is asked to change the tag that the user named exactly when
  both names stand for themselves, and that of the tag does not end in a blank.
-/

namespace DocSearch.Console

open Percent (encode decode codes)

/-- The directory below which the service is found. An address with a query or a fragment leads to
none. -/
def root? (base : String) : Option (List String) :=
  if '?' ∈ base.toList ∨ '#' ∈ base.toList then none
  else (Address.parse? (Address.trimSlashes base ++ "/")).map fun a =>
    a.path.dropLast.map String.ofList

/-- What a service below the directory `root` is asked to do. -/
def asked? (root : List String) (r : WireRequest) : Option Operation :=
  let path := (RequestTarget.ofText r.target).path
  if root.isPrefixOf path then
    ((Operation.offered (path.drop root.length)).lookup r.method).bind Operation.decoded?
  else none

/-- Adds or removes a tag of a file. -/
def change (add : Bool) (file type name : String) : Operation :=
  if add then .addTag file type name else .removeTag file type name

/-- No reader of an address takes anything in the text for something else. -/
def StandsForItself (s : String) : Prop :=
  (∀ c ∈ s.toList, c ∉ ['/', '\\', '?', '#', '\t', '\n', '\r']) ∧ codes s.toList = 0 ∧
    s ≠ "." ∧ s ≠ ".."

instance (s : String) : Decidable (StandsForItself s) :=
  -- Found by search, the instance for all characters would go through every one there is.
  have := List.decidableBAll (fun c => c ∉ ['/', '\\', '?', '#', '\t', '\n', '\r']) s.toList
  inferInstanceAs (Decidable (_ ∧ _ ∧ _ ∧ _))

/-! ## What is asked for -/

/-- The method of the request that changes a tag. -/
def changeMethod (add : Bool) : String := if add then "POST" else "DELETE"

theorem lookup_offeredBy {path : List String} {add : Bool} {file type name : String} :
    (Operation.offeredBy path).lookup (changeMethod add) = some (change add file type name) ↔
      path = ["api", "tags", file, type, name] := by
  cases add with
  | true => exact Operation.lookup_addTag_iff.trans (and_iff_right rfl)
  | false => exact Operation.lookup_removeTag_iff.trans (and_iff_right rfl)

theorem decoded?_eq_change {op : Operation} {add : Bool} {file type name : String} :
    op.decoded? = some (change add file type name) ↔
      ∃ f t n, op = change add f t n ∧ Operation.decodeText? f = some file ∧
        Operation.decodeText? t = some type ∧ Operation.decodeText? n = some name := by
  cases add with
  | true => exact Operation.decoded?_addTag_iff
  | false => exact Operation.decoded?_removeTag_iff

theorem offered_change_iff {path : List String} {add : Bool} {file type name : String} :
    ((Operation.offered path).lookup (changeMethod add)).bind Operation.decoded? =
        some (change add file type name) ↔
      ∃ f t n, path = ["api", "tags", f, t, n] ∧ "" ∉ path ∧
        decode f.toList = Text.bytes file ∧ decode t.toList = Text.bytes type ∧
        decode n.toList = Text.bytes name := by
  rw [Option.bind_eq_some_iff]
  unfold Operation.offered
  by_cases he : "" ∈ path
  · simp [he]
  rw [if_neg he]
  constructor
  · rintro ⟨op, hop, hd⟩
    obtain ⟨f, t, n, rfl, hf, ht, hn⟩ := decoded?_eq_change.mp hd
    rw [Operation.decodeText?_eq_some_iff] at hf ht hn
    exact ⟨f, t, n, lookup_offeredBy.mp hop, he, hf, ht, hn⟩
  · rintro ⟨f, t, n, hp, -, hf, ht, hn⟩
    rw [← Operation.decodeText?_eq_some_iff] at hf ht hn
    exact ⟨change add f t n, lookup_offeredBy.mpr hp,
      decoded?_eq_change.mpr ⟨f, t, n, rfl, hf, ht, hn⟩⟩

/-! ## The text behind the address of the service -/

/-- What the console writes behind the address of the service. -/
def tagPath (file name : List Char) : List Char :=
  ['a', 'p', 'i'] ++ '/' :: (['t', 'a', 'g', 's'] ++ '/' ::
    (file ++ '/' :: (['m', 'a', 'n', 'u', 'a', 'l'] ++ '/' :: name)))

theorem toList_tagPath (file name : String) :
    ("/api/tags/" ++ file ++ "/manual/" ++ name).toList =
      '/' :: tagPath file.toList name.toList := by
  have h : ∀ s t u v : String, (s ++ t ++ u ++ v).toList =
      s.toList ++ (t.toList ++ (u.toList ++ v.toList)) := by
    intro s t u v
    simp only [String.toList_append, List.append_assoc]
  rw [h]
  rfl

/-- The segments of the path, as they are asked for. -/
def tagSegments (file name : List Char) : List (List Char) :=
  [['a', 'p', 'i'], ['t', 'a', 'g', 's'], file, ['m', 'a', 'n', 'u', 'a', 'l'], name]

theorem splitOnP_tagPath (file name : List Char) :
    (tagPath file name).splitOnP Address.isSlash =
      ['a', 'p', 'i'] :: ['t', 'a', 'g', 's'] :: (file.splitOnP Address.isSlash ++
        ['m', 'a', 'n', 'u', 'a', 'l'] :: name.splitOnP Address.isSlash) := by
  have hs : Address.isSlash '/' = true := by decide
  rw [tagPath, List.splitOnP_append_cons_of_forall_mem (by simp [Address.isSlash]) _ hs,
    List.splitOnP_append_cons_of_forall_mem (by simp [Address.isSlash]) _ hs,
    List.splitOnP_append_cons _ _ hs,
    List.splitOnP_append_cons_of_forall_mem (by simp [Address.isSlash]) _ hs]

theorem splitOnP_tagPath_of_forall {file name : List Char}
    (hf : ∀ c ∈ file, Address.isSlash c = false) (hn : ∀ c ∈ name, Address.isSlash c = false) :
    (tagPath file name).splitOnP Address.isSlash = tagSegments file name := by
  rw [splitOnP_tagPath, List.splitOnP_eq_singleton hf, List.splitOnP_eq_singleton hn]
  rfl

theorem length_utf8_tagPath (file name : List Char) :
    ((tagPath file name).flatMap String.utf8EncodeChar).length =
      17 + (file.flatMap String.utf8EncodeChar).length +
        (name.flatMap String.utf8EncodeChar).length := by
  have h : ∀ cs ds : List Char, ((cs ++ '/' :: ds).flatMap String.utf8EncodeChar).length =
      (cs.flatMap String.utf8EncodeChar).length +
        (ds.flatMap String.utf8EncodeChar).length + 1 := by
    intro cs ds
    rw [List.flatMap_append, List.flatMap_cons, List.length_append, List.length_append,
      show (String.utf8EncodeChar '/').length = 1 by decide]
    omega
  have h₁ : (['a', 'p', 'i'].flatMap String.utf8EncodeChar).length = 3 := by decide
  have h₂ : (['t', 'a', 'g', 's'].flatMap String.utf8EncodeChar).length = 4 := by decide
  have h₃ : (['m', 'a', 'n', 'u', 'a', 'l'].flatMap String.utf8EncodeChar).length = 6 := by decide
  rw [tagPath, h, h, h, h, h₁, h₂, h₃]
  omega

theorem reached_tagPath_iff {file name : List Char} (hn : name ≠ []) :
    Address.reached (tagPath file name) = tagPath file name ↔
      (∀ c ∈ file ++ name, Address.isKept c = true ∧ c ≠ '#' ∧ c ≠ '?') ∧
        ∀ c ∈ name.getLast?, 0x20 < c.toNat := by
  have hlast : (tagPath file name).getLast? = name.getLast? := by
    obtain ⟨c, cs, rfl⟩ := List.exists_cons_of_ne_nil hn
    simp [tagPath, List.getLast?_append, List.getLast?_cons]
  rw [Address.reached_eq_self_iff, hlast]
  refine and_congr_left fun _ => ?_
  simp [tagPath, Address.isKept, or_imp, forall_and]

/-! ## From the segments to the service -/

theorem asked?_eq_some_iff {root : List String} {r : WireRequest} {op : Operation} :
    asked? root r = some op ↔ ∃ below, (RequestTarget.ofText r.target).path = root ++ below ∧
      ((Operation.offered below).lookup r.method).bind Operation.decoded? = some op := by
  unfold asked?
  simp only
  constructor
  · intro h
    split_ifs at h with hp
    obtain ⟨below, hb⟩ := List.isPrefixOf_iff_prefix.mp hp
    rw [← hb, List.drop_left] at h
    exact ⟨below, hb.symm, h⟩
  · rintro ⟨below, hb, h⟩
    rw [hb, if_pos (List.isPrefixOf_iff_prefix.mpr (List.prefix_append _ _)), List.drop_left]
    exact h

theorem empty_mem_iff {f t n : String} :
    "" ∈ ["api", "tags", f, t, n] ↔ [] ∈ [f.toList, t.toList, n.toList] := by
  have h : ∀ s : String, "" = s ↔ [] = s.toList := by
    intro s
    rw [eq_comm, ← String.toList_eq_nil_iff, eq_comm]
  simp only [List.mem_cons, List.not_mem_nil, or_false, h]
  constructor
  · rintro (h | h | h)
    · cases h
    · cases h
    · exact h
  · exact fun h => .inr (.inr h)

theorem asked?_change_iff {root : List (List Char)} {s : String} {a : Address} {add : Bool}
    {file type name : String} (h : Address.parse? s = some a) :
    asked? (root.map String.ofList) ⟨changeMethod add, a, none⟩ =
        some (change add file type name) ↔
      ∃ f t n, a.path = root ++ [['a', 'p', 'i'], ['t', 'a', 'g', 's'], f, t, n] ∧
        [] ∉ [f, t, n] ∧
        decode f = Text.bytes file ∧ decode t = Text.bytes type ∧ decode n = Text.bytes name := by
  have hpath : ∀ below : List String, a.path.map String.ofList = root.map String.ofList ++ below ↔
      a.path = root ++ below.map String.toList := by
    intro below
    constructor
    · intro hb
      have := congrArg (List.map String.toList) hb
      simpa [Function.comp_def] using this
    · intro hb
      simp [hb, Function.comp_def]
  rw [asked?_eq_some_iff, WireRequest.target, Address.path_ofText_target h]
  simp only [hpath, offered_change_iff]
  constructor
  · rintro ⟨below, hb, f, t, n, rfl, hne, hf, ht, hn⟩
    exact ⟨f.toList, t.toList, n.toList, hb, mt empty_mem_iff.mpr hne, hf, ht, hn⟩
  · rintro ⟨f, t, n, hb, hne, hf, ht, hn⟩
    refine ⟨_, ?_, .ofList f, .ofList t, .ofList n, rfl, ?_, ?_⟩
    · rw [hb]
      simp only [List.map_cons, List.map_nil, String.toList_ofList]
      rfl
    · rw [empty_mem_iff]
      simp only [String.toList_ofList]
      exact hne
    · simp only [String.toList_ofList]
      exact ⟨hf, ht, hn⟩

/-! ## When the texts stand for themselves -/

theorem standsForItself_iff {s : String} : StandsForItself s ↔
    (∀ c ∈ s.toList, Address.isKept c = true ∧ c ≠ '#' ∧ c ≠ '?') ∧
      (∀ c ∈ s.toList, Address.isSlash c = false) ∧ codes s.toList = 0 ∧
        Address.isDots s.toList = false := by
  have hchar : ∀ c : Char, c ∉ ['/', '\\', '?', '#', '\t', '\n', '\r'] ↔
      (Address.isKept c = true ∧ c ≠ '#' ∧ c ≠ '?') ∧ Address.isSlash c = false := by
    intro c
    simp [Address.isKept, Address.isSlash]
    tauto
  have hdots : codes s.toList = 0 → ((s ≠ "." ∧ s ≠ "..") ↔ Address.isDots s.toList = false) := by
    intro hc
    constructor
    · rintro ⟨h₁, h₂⟩
      exact Address.isDots_of_codes hc (fun h => h₁ (String.toList_inj.mp h))
        (fun h => h₂ (String.toList_inj.mp h))
    · intro hd
      constructor
      all_goals
        rintro rfl
        exact absurd hd (by decide)
  unfold StandsForItself
  simp only [hchar, forall_and]
  constructor
  · rintro ⟨⟨hk, hs⟩, hc, hd⟩
    exact ⟨hk, hs, hc, (hdots hc).mp hd⟩
  · rintro ⟨hk, hs, hc, hd⟩
    exact ⟨⟨hk, hs⟩, hc, (hdots hc).mpr hd⟩

theorem eq_false_of_length_splitOnP {cs : List Char}
    (h : (cs.splitOnP Address.isSlash).length ≤ 1) : ∀ c ∈ cs, Address.isSlash c = false := by
  intro c hc
  by_contra hs
  obtain ⟨before, behind, rfl⟩ := List.append_of_mem hc
  have h₁ := List.length_pos_iff.mpr (List.splitOnP_ne_nil Address.isSlash before)
  have h₂ := List.length_pos_iff.mpr (List.splitOnP_ne_nil Address.isSlash behind)
  rw [List.splitOnP_append_cons _ _ (by simpa using hs), List.length_append] at h
  omega

/-- Names that arrive at the service have lost nothing on the way. -/
theorem steady_of_follow_tagPath {up : List (List Char)} {file name f t n : List Char}
    (h : Address.follow up ((Address.reached (tagPath file name)).splitOnP Address.isSlash) =
      up.reverse ++ [['a', 'p', 'i'], ['t', 'a', 'g', 's'], f, t, n])
    (hf : decode f = file.flatMap String.utf8EncodeChar) (ht : (decode t).length = 6)
    (hn : decode n = name.flatMap String.utf8EncodeChar) :
    Address.reached (tagPath file name) = tagPath file name ∧
      ∀ s ∈ [file, name], (∀ c ∈ s, Address.isSlash c = false) ∧ codes s = 0 ∧
        Address.isDots s = false := by
  have hload : Address.load (up.reverse ++ [['a', 'p', 'i'], ['t', 'a', 'g', 's'], f, t, n]) =
      Address.load up + (1 + ((tagPath file name).flatMap String.utf8EncodeChar).length) := by
    have h₁ : (decode ['a', 'p', 'i']).length = 3 := by decide
    have h₂ : (decode ['t', 'a', 'g', 's']).length = 4 := by decide
    rw [Address.load_append, Address.load_reverse, length_utf8_tagPath]
    simp only [Address.load_cons, Address.load_nil, h₁, h₂, hf, ht, hn]
    omega
  obtain ⟨hreached, hsteady⟩ := Address.intact_of_load (h ▸ hload).ge
  rw [hreached, Address.follow_of_steady fun seg hs => (hsteady seg hs).2] at h
  -- A slash in a name would have given more segments.
  have hlength := congrArg List.length (List.append_cancel_left h)
  rw [splitOnP_tagPath] at hlength
  simp only [List.length_map, List.length_cons, List.length_append, List.length_nil] at hlength
  have hfile := List.length_pos_iff.mpr (List.splitOnP_ne_nil Address.isSlash file)
  have hname := List.length_pos_iff.mpr (List.splitOnP_ne_nil Address.isSlash name)
  have hslash : ∀ s ∈ [file, name], ∀ c ∈ s, Address.isSlash c = false := by
    simp only [List.forall_mem_cons, List.not_mem_nil, IsEmpty.forall_iff, implies_true, and_true]
    exact ⟨eq_false_of_length_splitOnP (by omega), eq_false_of_length_splitOnP (by omega)⟩
  have hsegments : ∀ s ∈ [file, name], s ∈ (tagPath file name).splitOnP Address.isSlash := by
    intro s hs
    rw [splitOnP_tagPath_of_forall (hslash file (by simp)) (hslash name (by simp)), tagSegments]
    rcases List.mem_cons.mp hs with rfl | hs
    · simp
    · simp [List.mem_singleton.mp hs]
  exact ⟨hreached, fun s hs => ⟨hslash s hs, hsteady s (hsegments s hs)⟩⟩

theorem follow_tagSegments {file name : List Char} (hf : Address.isDots file = false)
    (hn : Address.isDots name = false) (up : List (List Char)) :
    Address.follow up (tagSegments file name) = up.reverse ++
      tagSegments (encode Address.inPathSet file) (encode Address.inPathSet name) := by
  have hsteady : ∀ s ∈ tagSegments file name, Address.isDots s = false := by
    intro s hs
    simp only [tagSegments, List.mem_cons, List.not_mem_nil, or_false] at hs
    rcases hs with rfl | rfl | rfl | rfl | rfl
    · decide
    · decide
    · exact hf
    · decide
    · exact hn
  rw [Address.follow_of_steady hsteady]
  rfl

theorem request?_changeTag {base : String} {root : List String} (h : root? base = some root)
    (file name : String) (add : Bool) :
    ∃ (up : List (List Char)) (s : String) (a : Address), root = up.reverse.map String.ofList ∧
      Address.parse? s = some a ∧
      request? base (.changeTag file name add) = some ⟨changeMethod add, a, none⟩ ∧
      a.path = Address.follow up
        ((Address.reached (tagPath file.toList name.toList)).splitOnP Address.isSlash) := by
  unfold root? at h
  split_ifs at h with hb
  rw [not_or] at hb
  obtain ⟨a₀, ha₀, rfl⟩ := Option.map_eq_some_iff.mp h
  have htrim : ∀ s, Address.trimSlashes base ++ s =
      .ofList (base.toList.rdropWhile (· = '/') ++ s.toList) := by
    intro s
    rw [String.ofList_append, String.ofList_toList]
    rfl
  have hmem : ∀ {c}, c ∉ base.toList → c ∉ base.toList.rdropWhile (· = '/') :=
    fun hc hm => hc ((List.rdropWhile_prefix _ _).subset hm)
  rw [htrim] at ha₀
  obtain ⟨up, hup, hparse⟩ := Address.parse?_append (hmem hb.1) (hmem hb.2) ha₀
  have hp := hparse (tagPath file.toList name.toList)
  rw [Option.map_eq_some_iff] at hp
  obtain ⟨a, ha, hpath⟩ := hp
  refine ⟨up, _, a, ?_, ha, ?_, hpath⟩
  · rw [hup, List.dropLast_concat]
  · rw [← toList_tagPath, ← htrim] at ha
    rw [request?, addressOf?, ha]
    rfl

/-- **The service is asked to change the tag that the user named exactly when both names stand for
themselves.** A blank at the end of the name of a tag is lost, too. -/
theorem changeTag_asked_iff {base : String} {root : List String} (hr : root? base = some root)
    {file name : String} (hf : file ≠ "") (hn : name ≠ "") (add : Bool) :
    ∃ r, request? base (.changeTag file name add) = some r ∧
      (asked? root r = some (change add file "manual" name) ↔
        StandsForItself file ∧ StandsForItself name ∧
          ∀ c ∈ name.toList.getLast?, 0x20 < c.toNat) := by
  obtain ⟨up, s, a, rfl, hparse, hreq, hpath⟩ := request?_changeTag hr file name add
  refine ⟨_, hreq, ?_⟩
  have hfile : file.toList ≠ [] := mt String.toList_eq_nil_iff.mp hf
  have hname : name.toList ≠ [] := mt String.toList_eq_nil_iff.mp hn
  rw [asked?_change_iff hparse, standsForItself_iff, standsForItself_iff, hpath,
    Text.bytes_eq_flatMap, Text.bytes_eq_flatMap name]
  have hmanual : Text.bytes "manual" = decode ['m', 'a', 'n', 'u', 'a', 'l'] := by
    rw [Text.bytes_eq_flatMap]
    decide
  constructor
  · rintro ⟨f, t, n, hp, -, hdf, hdt, hdn⟩
    rw [hmanual] at hdt
    obtain ⟨hreached, hs⟩ := steady_of_follow_tagPath hp hdf (by rw [hdt]; decide) hdn
    obtain ⟨hkept, hlast⟩ := (reached_tagPath_iff hname).mp hreached
    rw [List.forall_mem_append] at hkept
    exact ⟨⟨hkept.1, hs _ (by simp)⟩, ⟨hkept.2, hs _ (by simp)⟩, hlast⟩
  · rintro ⟨⟨hkf, hsf, hcf, hdf⟩, ⟨hkn, hsn, hcn, hdn⟩, hlast⟩
    have hreached := (reached_tagPath_iff hname).mpr
      ⟨List.forall_mem_append.mpr ⟨hkf, hkn⟩, hlast⟩
    have hwritten : ∀ s : List Char, s ≠ [] → encode Address.inPathSet s ≠ [] := by
      intro s hs he
      have := Percent.decode_ne_nil hs
      rw [← Address.decode_encode_inPathSet, he] at this
      exact this rfl
    rw [hreached, splitOnP_tagPath_of_forall hsf hsn, follow_tagSegments hdf hdn]
    refine ⟨_, _, _, rfl, ?_, ?_, hmanual.symm, ?_⟩
    · simpa using ⟨hwritten _ hfile, hwritten _ hname⟩
    · rw [Address.decode_encode_inPathSet, Percent.decode_of_codes_eq_zero hcf]
    · rw [Address.decode_encode_inPathSet, Percent.decode_of_codes_eq_zero hcn]

/-- A space and letters with accents are written as codes, and dots in the address of the service
are followed. -/
theorem changeTag_asked_accents :
    root? "http://host/docs/../search/" = some ["search"] ∧
      ∃ r, request? "http://host/docs/../search/" (.changeTag "a b" "été" true) = some r ∧
        asked? ["search"] r = some (.addTag "a b" "manual" "été") := by
  have hr : root? "http://host/docs/../search/" = some ["search"] := by decide +kernel
  refine ⟨hr, ?_⟩
  obtain ⟨r, hreq, hasked⟩ := changeTag_asked_iff hr (show "a b" ≠ "" by decide)
    (show "été" ≠ "" by decide) true
  have hlast : "été".toList.getLast? = some 'é' := by decide
  refine ⟨r, hreq, hasked.mpr ⟨by decide, by decide, ?_⟩⟩
  rw [hlast]
  simp

/-- **What follows a number sign is lost**: another tag is added than the user named. -/
theorem changeTag_number_sign : root? "http://host" = some [] ∧
    ((request? "http://host" (.changeTag "f1" "c#" true)).bind (asked? [])) =
      some (change true "f1" "manual" "c") ∧
    ((request? "http://host" (.changeTag "f1" "c#" true)).bind (asked? [])) ≠
      some (change true "f1" "manual" "c#") := by
  decide +kernel

end DocSearch.Console
