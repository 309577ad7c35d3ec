import Mathlib
import DocSearch.Http.Address
import DocSearch.Proofs.Http.Percent
/-!
# The segments of a path

* `follow_eq`, `follow_of_steady`: what the segments of a path lead to.
* `load`: what the segments stand for, in bytes.
* **`load_follow_lt`**: a path with dots in it stands for less than its segments.
* **`load_splitOnP`**: the segments of a text stand for its bytes, less two for each code.
-/

namespace DocSearch.Address

open Percent (encode decode codes)

/-! ## Following a path -/

/-- The character ends a segment. -/
def isSlash (c : Char) : Bool := c == '/' || c == '\\'

/-- The segment names no level of its own. -/
def isDots (seg : List Char) : Bool := isDoubleDot seg || isSingleDot seg

/-- The levels behind a segment. -/
def level (up : List (List Char)) (seg : List Char) : List (List Char) :=
  if isDoubleDot seg then up.drop 1
  else if isSingleDot seg then up
  else encode inPathSet seg :: up

theorem follow_eq (up segs : List (List Char)) : follow up segs =
    (segs.foldl level up).reverse ++ if segs.getLast?.any isDots then [[]] else [] := by
  induction segs generalizing up with
  | nil => rw [follow]; simp
  | cons seg segs ih =>
    match segs with
    | [] =>
      have h : follow up [seg] =
          if isDots seg then ([] :: level up seg).reverse else (level up seg).reverse := rfl
      rw [h, List.foldl_cons, List.foldl_nil, List.getLast?_singleton, Option.any_some]
      split_ifs
      · rw [List.reverse_cons]
      · rw [List.append_nil]
    | s :: segs =>
      have h : follow up (seg :: s :: segs) = follow (level up seg) (s :: segs) := rfl
      rw [h, ih, List.getLast?_cons_cons]
      rfl

theorem follow_append {rest : List (List Char)} (h : rest ≠ []) (segs up : List (List Char)) :
    follow up (segs ++ rest) = follow (segs.foldl level up) rest := by
  rw [follow_eq, follow_eq, List.foldl_append, List.getLast?_append_of_ne_nil segs h]

theorem level_of_steady {seg : List Char} (h : isDots seg = false) (up : List (List Char)) :
    level up seg = encode inPathSet seg :: up := by
  rw [isDots, Bool.or_eq_false_iff] at h
  rw [level, h.1, h.2, if_neg Bool.false_ne_true, if_neg Bool.false_ne_true]

theorem foldl_level_of_steady {segs : List (List Char)} (h : ∀ seg ∈ segs, isDots seg = false)
    (up : List (List Char)) :
    segs.foldl level up = (segs.map (encode inPathSet)).reverse ++ up := by
  induction segs generalizing up with
  | nil => rfl
  | cons seg segs ih =>
    rw [List.foldl_cons, level_of_steady (h seg List.mem_cons_self),
      ih fun s hs => h s (List.mem_cons_of_mem _ hs)]
    simp

theorem follow_of_steady {segs : List (List Char)} (h : ∀ seg ∈ segs, isDots seg = false)
    (up : List (List Char)) : follow up segs = up.reverse ++ segs.map (encode inPathSet) := by
  have hlast : segs.getLast?.any isDots = false := by
    rw [Option.any_eq_false_iff_get]
    intro hs
    exact h _ (List.mem_of_getLast? (Option.some_get hs).symm)
  rw [follow_eq, hlast, foldl_level_of_steady h]
  simp

theorem mem_foldl_level {segs up : List (List Char)} {seg : List Char}
    (h : seg ∈ segs.foldl level up) : seg ∈ up ∨ ∃ s ∈ segs, seg = encode inPathSet s := by
  induction segs generalizing up with
  | nil => exact .inl h
  | cons s segs ih =>
    rcases ih h with hm | ⟨t, ht, rfl⟩
    · unfold level at hm
      split_ifs at hm with h₁ h₂
      · exact .inl (List.mem_of_mem_drop hm)
      · exact .inl hm
      · exact (List.mem_cons.mp hm).symm.imp_right fun he => ⟨s, List.mem_cons_self, he⟩
    · exact .inr ⟨t, List.mem_cons_of_mem _ ht, rfl⟩

theorem dropDot?_of_codes {seg rest : List Char} (hc : codes seg = 0)
    (h : dropDot? seg = some rest) : seg = '.' :: rest := by
  unfold dropDot? at h
  split at h
  · cases h
    rfl
  · next c rest' =>
    split_ifs at h with he
    obtain ⟨y, hy⟩ : ∃ y, Percent.hexValue? c = some y := by
      rcases he with rfl | rfl <;> exact ⟨14, by decide⟩
    rw [Percent.codes_hex (x := 2) (by decide) hy] at hc
    cases hc
  · cases h

theorem isDots_of_codes {seg : List Char} (hc : codes seg = 0) (h₁ : seg ≠ ['.'])
    (h₂ : seg ≠ ['.', '.']) : isDots seg = false := by
  by_contra hd
  rw [isDots, Bool.not_eq_false, Bool.or_eq_true] at hd
  rcases hd with hd | hd
  · obtain ⟨rest, hr, hrr⟩ : ∃ rest, dropDot? seg = some rest ∧ dropDot? rest = some [] := by
      simpa [isDoubleDot, Option.bind_eq_some_iff] using hd
    obtain rfl := dropDot?_of_codes hc hr
    rw [Percent.codes_cons (by simp)] at hc
    obtain rfl := dropDot?_of_codes hc hrr
    exact h₂ rfl
  · exact h₁ (dropDot?_of_codes hc (by simpa [isSingleDot] using hd))

/-! ## What a path stands for -/

/-- The bytes that the segments of a path stand for, and a slash for each. -/
def load (segs : List (List Char)) : Nat := (segs.map fun seg => 1 + (decode seg).length).sum

theorem load_nil : load [] = 0 := rfl

theorem load_cons (seg : List Char) (segs : List (List Char)) :
    load (seg :: segs) = 1 + (decode seg).length + load segs := by
  simp [load]

theorem load_append (segs rest : List (List Char)) :
    load (segs ++ rest) = load segs + load rest := by
  simp [load]

theorem load_reverse (segs : List (List Char)) : load segs.reverse = load segs := by
  simp [load, List.sum_reverse]

theorem decode_encode_inPathSet (cs : List Char) : decode (encode inPathSet cs) = decode cs := by
  apply Percent.decode_encode_eq _ (by decide)
  intro c hc
  have hascii : ∀ n < 0x80, inPathSet (Char.ofNat n) = true →
      Percent.hexValue? (Char.ofNat n) = none := by decide
  cases hx : Percent.hexValue? c with
  | none => rfl
  | some n =>
    have := hascii c.toNat (Percent.toNat_lt_of_hexValue? hx)
    rw [Char.ofNat_toNat, hx] at this
    exact this hc

theorem load_map_encode (segs : List (List Char)) :
    load (segs.map (encode inPathSet)) = load segs := by
  induction segs with
  | nil => rfl
  | cons seg segs ih => rw [List.map_cons, load_cons, load_cons, ih, decode_encode_inPathSet]

theorem load_drop_le (segs : List (List Char)) (n : Nat) : load (segs.drop n) ≤ load segs := by
  have h := load_append (segs.take n) (segs.drop n)
  rw [List.take_append_drop] at h
  omega

theorem load_level_le (up : List (List Char)) (seg : List Char) :
    load (level up seg) ≤ load up + (1 + (decode seg).length) := by
  have h := load_drop_le up 1
  unfold level
  split_ifs
  · omega
  · omega
  · rw [load_cons, decode_encode_inPathSet, Nat.add_comm]

theorem load_level_of_isDots {seg : List Char} (h : isDots seg = true) (up : List (List Char)) :
    load (level up seg) ≤ load up := by
  unfold level
  split_ifs with h₁ h₂
  · exact load_drop_le up 1
  · exact le_rfl
  · exact absurd h (by simp [isDots, h₁, h₂])

theorem load_foldl_level_le (segs up : List (List Char)) :
    load (segs.foldl level up) ≤ load up + load segs := by
  induction segs generalizing up with
  | nil => exact le_rfl
  | cons seg segs ih =>
    have hl := load_level_le up seg
    have hi := ih (level up seg)
    rw [List.foldl_cons, load_cons]
    omega

theorem ne_nil_of_isDots {seg : List Char} (h : isDots seg = true) : seg ≠ [] := by
  rintro rfl
  exact absurd h (by decide)

/-- **A path with dots in it stands for less than its segments.** -/
theorem load_follow_lt {segs : List (List Char)} {seg : List Char} (hm : seg ∈ segs)
    (h : isDots seg = true) (up : List (List Char)) :
    load (follow up segs) < load up + load segs := by
  obtain ⟨before, rest, rfl⟩ := List.append_of_mem hm
  have hb := load_foldl_level_le before up
  have hl := load_level_of_isDots h (before.foldl level up)
  have hne : 0 < (decode seg).length :=
    List.length_pos_iff.mpr (Percent.decode_ne_nil (ne_nil_of_isDots h))
  have hr := load_foldl_level_le rest (level (before.foldl level up) seg)
  have hend : load (if ((before ++ seg :: rest).getLast?.any isDots) then [[]] else []) ≤ 1 := by
    split_ifs <;> simp [load, decode]
  rw [follow_eq, load_append, load_reverse, List.foldl_append, List.foldl_cons, load_append,
    load_cons]
  omega

theorem load_follow_le (segs up : List (List Char)) :
    load (follow up segs) ≤ load up + load segs := by
  by_cases h : ∀ seg ∈ segs, isDots seg = false
  · rw [follow_of_steady h, load_append, load_reverse, load_map_encode]
  · obtain ⟨seg, hm, hd⟩ : ∃ seg ∈ segs, isDots seg = true := by simpa using h
    exact (load_follow_lt hm hd up).le

theorem load_splitOnP (cs : List Char) :
    load (cs.splitOnP isSlash) + 2 * ((cs.splitOnP isSlash).map codes).sum =
      1 + (cs.flatMap String.utf8EncodeChar).length := by
  have hsum : ∀ segs : List (List Char), load segs + 2 * (segs.map codes).sum =
      (segs.map fun seg => 1 + (seg.flatMap String.utf8EncodeChar).length).sum := by
    intro segs
    induction segs with
    | nil => rfl
    | cons seg segs ih =>
      have := Percent.length_decode seg
      rw [load_cons, List.map_cons, List.sum_cons, List.map_cons, List.sum_cons]
      omega
  rw [hsum]
  induction cs with
  | nil => rfl
  | cons c cs ih =>
    rw [List.splitOnP_cons_eq_if_modifyHead, List.flatMap_cons, List.length_append]
    by_cases hc : isSlash c = true
    · have hone : (String.utf8EncodeChar c).length = 1 := by
        rcases (by simpa [isSlash] using hc : c = '/' ∨ c = '\\') with rfl | rfl <;> decide
      rw [if_pos hc, List.map_cons, List.sum_cons, ih, hone, List.flatMap_nil, List.length_nil,
        Nat.add_zero]
    · obtain ⟨seg, segs, hs⟩ := List.exists_cons_of_ne_nil (List.splitOnP_ne_nil isSlash cs)
      rw [hs, List.map_cons, List.sum_cons] at ih
      rw [if_neg hc, hs, List.modifyHead_cons, List.map_cons, List.sum_cons, List.flatMap_cons,
        List.length_append]
      omega

end DocSearch.Address
