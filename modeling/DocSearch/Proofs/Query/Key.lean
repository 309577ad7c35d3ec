import Mathlib
import DocSearch.Proofs.Text.Lower
import DocSearch.Query.Term
/-!
# Where a key is cut off a token

A key is looked for in the lowercase of a token, and what stands behind it is cut out of the token itself,
by the number of bytes of the key. The lowercase of other characters may be longer or shorter than they
are.

* `Key.Cut`: a token is a spelling of a key, up to the case of letters of ASCII, and a rest.
* `startsWith_iff_cut`: the keys that are found are those that are so cut off; `startsWith_unique`: at
  most one key is found in a token, in one of its spellings.
* `value?_of_cut`: what is said under the key is the rest as it stands.
* **`value?_cuts`**: all of these, and the bytes of the key end between two characters of the token.
* `Says`: the value under a key that a token is, told by the keys as they are written.
  **`ofToken?_eq_some_iff`**: it is what is read.
* **`ofToken?_spelling`**: a key as it is spelled, with any text behind it, is a term of that key.
-/

namespace DocSearch.Key

/-! ## Bytes -/

theorem behindBytes?_append (s cs : List Char) :
    behindBytes? (s.map Char.utf8Size).sum (s ++ cs) = some cs := by
  induction s with
  | nil => rw [List.map_nil, List.sum_nil, List.nil_append, behindBytes?]
  | cons c s ih =>
    obtain ⟨n, hn⟩ := Nat.exists_eq_succ_of_ne_zero (Nat.pos_iff_ne_zero.mp c.utf8Size_pos)
    have hsum : ((c :: s).map Char.utf8Size).sum = (n + (s.map Char.utf8Size).sum) + 1 := by
      rw [List.map_cons, List.sum_cons, hn]
      omega
    rw [hsum, List.cons_append, behindBytes?, if_pos (by omega), hn, ← ih]
    congr 1
    omega

theorem utf8ByteSize_eq_sum (s : String) : s.utf8ByteSize = (s.toList.map Char.utf8Size).sum := by
  rw [← String.ofList_toList (s := s)]
  induction s.toList with
  | nil => rfl
  | cons c cs ih =>
    rw [← List.singleton_append, String.ofList_append, String.utf8ByteSize_append, ih]
    simp

theorem utf8Size_of_ascii {c : Char} (h : c.toNat < 0x80) : c.utf8Size = 1 :=
  Char.utf8Size_eq_one_iff.mpr (UInt32.le_iff_toNat_le.mpr (Nat.le_of_lt_succ h))

/-! ## Spellings -/

theorem mem_all (k : Key) : k ∈ all := by
  cases k <;> decide

/-- The characters of spellings: neither blanks nor capitals, and none that the lowercase of a character
outside ASCII may be taken for. -/
theorem ascii_of_mem_spellings (k : Key) {s : String} (hs : s ∈ k.spellings) :
    (∀ c ∈ s.toList, 0x21 ≤ c.toNat ∧ c.toNat < 0x80 ∧ (c.toNat < 0x41 ∨ 0x5A < c.toNat) ∧ c ≠ 'k') ∧
      s.toList.getLast? ≠ some 'i' := by
  have hascii : ∀ k ∈ all, ∀ s ∈ k.spellings, (s.toList.all fun c =>
      0x21 ≤ c.toNat && c.toNat < 0x80 && (c.toNat < 0x41 || 0x5A < c.toNat) && c != 'k') = true ∧
      s.toList.getLast? ≠ some 'i' := by
    decide +kernel
  obtain ⟨hchars, hlast⟩ := hascii k (mem_all k) s hs
  refine ⟨fun c hc => ?_, hlast⟩
  simpa [and_assoc] using List.all_eq_true.mp hchars c hc

theorem plain_of_mem_spellings (k : Key) {s : String} (hs : s ∈ k.spellings) :
    ∀ c ∈ s.toList, Text.IsLower c ∧ Text.isBlank c = false := by
  intro c hc
  obtain ⟨hlow, hhigh, hcapital, -⟩ := (k.ascii_of_mem_spellings hs).1 c hc
  exact ⟨Text.isLower_of_ascii hhigh hcapital, Text.isBlank_eq_false hlow (by omega)⟩

theorem spellings_apart : ∀ k ∈ all, ∀ s ∈ k.spellings, ∀ k' ∈ all, ∀ s' ∈ k'.spellings,
    (s'.toList.isPrefixOf s.toList || s.toList.isPrefixOf s'.toList) = true → k' = k ∧ s' = s := by
  decide +kernel

/-! ## Cuts -/

/-- The token is the spelling, up to the case of letters of ASCII, and a rest. -/
structure Cut (spelling token written rest : String) : Prop where
  token_eq : token = written ++ rest
  written_eq : written.toList.map Char.toLower = spelling.toList

variable {k : Key} {s token written rest : String}

theorem startsWith_iff_cut (hs : s ∈ k.spellings) :
    startsWith token s = true ↔ ∃ written rest, Cut s token written rest := by
  obtain ⟨hascii, hlast⟩ := k.ascii_of_mem_spellings hs
  rw [startsWith, List.isPrefixOf_iff_prefix, Text.lowerChars,
    Text.prefix_lowerFrom_iff (fun c hc => ⟨(hascii c hc).2.1, (hascii c hc).2.2.2⟩) hlast,
    List.prefix_map_iff]
  constructor
  · rintro ⟨written, ⟨rest, htoken⟩, hwritten⟩
    refine ⟨.ofList written, .ofList rest, ?_, by simpa using hwritten.symm⟩
    rw [← String.ofList_append, htoken, String.ofList_toList]
  · rintro ⟨written, rest, rfl, hwritten⟩
    exact ⟨written.toList, ⟨rest.toList, (String.toList_append ..).symm⟩, hwritten.symm⟩

/-- **At most one key is found in a token.** -/
theorem startsWith_unique (hs : s ∈ k.spellings) (h : startsWith token s = true) {k' : Key}
    {s' : String} (hs' : s' ∈ k'.spellings) (h' : startsWith token s' = true) : k' = k ∧ s' = s := by
  rw [startsWith, List.isPrefixOf_iff_prefix] at h h'
  apply spellings_apart k (mem_all k) s hs k' (mem_all k') s' hs'
  rw [Bool.or_eq_true, List.isPrefixOf_iff_prefix, List.isPrefixOf_iff_prefix]
  exact List.prefix_or_prefix_of_prefix h' h

theorem Cut.utf8ByteSize_eq (hs : s ∈ k.spellings) (h : Cut s token written rest) :
    written.utf8ByteSize = s.utf8ByteSize := by
  rw [utf8ByteSize_eq_sum, utf8ByteSize_eq_sum, ← h.written_eq, List.map_map]
  congr 1
  refine List.map_congr_left fun c hc => ?_
  have hlower : c.toLower.toNat < 0x80 := by
    have hmem : c.toLower ∈ s.toList := h.written_eq ▸ List.mem_map_of_mem hc
    exact ((k.ascii_of_mem_spellings hs).1 _ hmem).2.1
  rw [Function.comp_apply, utf8Size_of_ascii hlower, utf8Size_of_ascii (Text.toNat_lt_of_toLower hlower)]

theorem Cut.isValid (hs : s ∈ k.spellings) (h : Cut s token written rest) :
    (⟨s.utf8ByteSize⟩ : String.Pos.Raw).IsValid token :=
  String.Pos.Raw.isValid_iff_exists_append.mpr
    ⟨written, rest, h.token_eq, String.Pos.Raw.ext (h.utf8ByteSize_eq hs).symm⟩

/-- **What is said under a key is the rest of the token as it stands.** -/
theorem value?_of_cut (hs : s ∈ k.spellings) (h : Cut s token written rest) (k' : Key) :
    k'.value? token = if k' = k ∧ rest ≠ "" then some rest else none := by
  have hstarts : startsWith token s = true := (startsWith_iff_cut hs).mpr ⟨written, rest, h⟩
  rw [value?]
  by_cases hk : k' = k
  · subst hk
    have hfind : k'.spellings.find? (startsWith token) = some s := by
      cases hf : k'.spellings.find? (startsWith token) with
      | none => exact absurd hstarts (List.find?_eq_none.mp hf s hs)
      | some s' =>
        rw [(startsWith_unique hs hstarts (List.mem_of_find?_eq_some hf) (List.find?_some hf)).2]
    have hbehind : behindBytes? s.utf8ByteSize token.toList = some rest.toList := by
      rw [← h.utf8ByteSize_eq hs, utf8ByteSize_eq_sum, h.token_eq, String.toList_append,
        behindBytes?_append]
    rw [hfind, Option.bind_some, hbehind]
    by_cases hrest : rest = ""
    · subst hrest
      simp
    · simp [hrest]
  · have hfind : k'.spellings.find? (startsWith token) = none := by
      apply List.find?_eq_none.mpr
      intro s' hs' h'
      exact hk (startsWith_unique hs hstarts hs' h').1
    rw [hfind, if_neg fun h => hk h.1, Option.bind_none]

/-- **A key is cut off where it stands.** It is found in the lowercase of the token exactly if the token
starts with it up to the case of letters of ASCII. Its bytes then end between two characters of the token,
what is said under it is the rest as it stands, absent when nothing is left, and no other key is found. -/
theorem value?_cuts (hs : s ∈ k.spellings) (token : String) :
    (startsWith token s = true ↔ ∃ written rest, Cut s token written rest) ∧
    (∀ written rest, Cut s token written rest →
      written.utf8ByteSize = s.utf8ByteSize ∧
      (⟨s.utf8ByteSize⟩ : String.Pos.Raw).IsValid token ∧
      k.value? token = if rest = "" then none else some rest) ∧
    ∀ k' : Key, ∀ s' ∈ k'.spellings,
      startsWith token s = true → startsWith token s' = true → k' = k ∧ s' = s := by
  refine ⟨startsWith_iff_cut hs, fun written rest h => ⟨h.utf8ByteSize_eq hs, h.isValid hs, ?_⟩,
    fun k' s' hs' h h' => startsWith_unique hs h hs' h'⟩
  rw [value?_of_cut hs h]
  by_cases hrest : rest = "" <;> simp [hrest]

/-- The capital at the start of the value is longer in lowercase, and stays as it is. -/
theorem value?_cuts_istanbul :
    "filename:" ∈ name.spellings ∧ Cut "filename:" "FileName:İstanbul" "FileName:" "İstanbul" ∧
      name.value? "FileName:İstanbul" = some "İstanbul" := by
  have hs : "filename:" ∈ name.spellings := by decide
  have hcut : Cut "filename:" "FileName:İstanbul" "FileName:" "İstanbul" := ⟨by decide, by decide⟩
  exact ⟨hs, hcut, ((value?_cuts hs _).2.1 _ _ hcut).2.2⟩

/-- A dotted capital I is no `i`. -/
example : ofToken? "sİze>10" = none := by decide +kernel

/-! ## What a token says -/

/-- How the keys are written, in lowercase. -/
inductive Written : Key → String → Prop
  | filename : Written name "filename:"
  | name : Written name "name:"
  | author : Written author "author:"
  | source : Written source "source:"
  | notTags : Written notTags "!tags:"
  | minusTags : Written notTags "-tags:"
  | tags : Written tags "tags:"
  | atLeast : Written atLeast "size>"
  | atMost : Written atMost "size<"
  | updated : Written updated "when:"
  | visibility : Written visibility "show:"

theorem written_iff : k.Written s ↔ s ∈ k.spellings := by
  constructor
  · rintro (_ | _) <;> decide
  · intro hs
    cases k with
    | name | notTags =>
      simp only [spellings, List.mem_cons, List.not_mem_nil, or_false] at hs
      rcases hs with rfl | rfl <;> constructor
    | author | source | tags | atLeast | atMost | updated | visibility =>
      obtain rfl := List.mem_singleton.mp hs
      constructor

/-- The token says the value under the key: it is the key, up to the case of letters of ASCII, with the
value behind it, which is not empty. -/
def Says (k : Key) (token value : String) : Prop :=
  value ≠ "" ∧ ∃ key written, k.Written key ∧ Cut key token written value

theorem ofToken?_of_cut (hs : s ∈ k.spellings) (h : Cut s token written rest) (hrest : rest ≠ "") :
    ofToken? token = some (k, rest) := by
  unfold ofToken?
  simp only [value?_of_cut hs h, hrest, ne_eq, not_false_eq_true, and_true]
  cases k <;> rfl

theorem exists_cut_of_value? {v : String} (h : k.value? token = some v) :
    ∃ key ∈ k.spellings, ∃ written, Cut key token written v := by
  obtain ⟨key, hfind, -⟩ := Option.bind_eq_some_iff.mp h
  have hs := List.mem_of_find?_eq_some hfind
  obtain ⟨written, rest, hcut⟩ := (startsWith_iff_cut hs).mp (List.find?_some hfind)
  rw [value?_of_cut hs hcut] at h
  split_ifs at h
  cases h
  exact ⟨key, hs, written, hcut⟩

/-- **What is read from a token is what it says.** -/
theorem ofToken?_eq_some_iff {v : String} : ofToken? token = some (k, v) ↔ k.Says token v := by
  constructor
  · intro h
    obtain ⟨k', -, hfind⟩ := List.exists_of_findSome?_eq_some h
    obtain ⟨w, hvalue, he⟩ := Option.map_eq_some_iff.mp hfind
    cases he
    obtain ⟨key, hs, written, hcut⟩ := exists_cut_of_value? hvalue
    rw [value?_of_cut hs hcut] at hvalue
    split_ifs at hvalue with hne
    exact ⟨hne.2, key, written, written_iff.mpr hs, hcut⟩
  · rintro ⟨hv, key, written, hs, hcut⟩
    exact ofToken?_of_cut (written_iff.mp hs) hcut hv

/-! ## Keys in lowercase -/

theorem cut_spelling (hs : s ∈ k.spellings) (v : String) : Cut s (s ++ v) s v := by
  refine ⟨rfl, ?_⟩
  conv_rhs => rw [← List.map_id s.toList]
  refine List.map_congr_left fun c hc => ?_
  obtain ⟨-, hhigh, -, -⟩ := (k.ascii_of_mem_spellings hs).1 c hc
  obtain ⟨-, -, hlower⟩ := (k.plain_of_mem_spellings hs c hc).1
  rwa [Text.lowerChar, if_pos hhigh] at hlower

/-- **A key as it is spelled, with a text behind it, is a term of that key.** -/
theorem ofToken?_spelling (hs : s ∈ k.spellings) {v : String} (hv : v ≠ "") :
    ofToken? (s ++ v) = some (k, v) := ofToken?_of_cut hs (cut_spelling hs v) hv

end DocSearch.Key
