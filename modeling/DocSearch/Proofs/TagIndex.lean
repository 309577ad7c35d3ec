import Mathlib
import DocSearch.Proofs.Assoc
import DocSearch.TagIndex
/-!
# Counting the tag index

* `Changes`: a change that was applied moves the count of its tag and no other count; otherwise the
  index stays as it is. `changes_of_cases` for changes of one file, `changes_add`, `changes_remove`.
* `Carries`: a file has a tag. `carries_add`, `carries_remove`: a change gives at most its own tag to its
  own file, and no file becomes known by it.
* `mem_tags`, `nodup_tags`: the tags of an index are those with a positive count, each once.
* **`mem_counts`**: its counts are exactly the positive ones; `counts_eq_nil_iff`.
-/

namespace DocSearch.TagIndex

variable {x : TagIndex} {file : String} {tag t : Tag}

theorem count_eq_countP (x : TagIndex) (t : Tag) :
    x.count t = x.files.countP fun f => decide (t ∈ f.2) :=
  List.countP_eq_length_filter.symm

theorem count_le_length (x : TagIndex) (t : Tag) : x.count t ≤ x.files.length :=
  List.length_filter_le _ _

/-! ## Changes -/

theorem count_set {old : List Tag} (h : x.tagsOf? file = some old) (new : List Tag) (t : Tag) :
    count ⟨Assoc.set file new x.files⟩ t + (decide (t ∈ old)).toNat =
      x.count t + (decide (t ∈ new)).toNat := by
  rw [count_eq_countP, count_eq_countP]
  exact Assoc.countP_set (fun f : String × List Tag => decide (t ∈ f.2)) h

/-- A change of one tag: it leaves the index alone unless it is applied, and then it moves one count
by `delta`. -/
structure Changes (f : TagIndex → Except ProviderError TagChange × TagIndex) (tag : Tag)
    (delta : Int) : Prop where
  same : ∀ x, (f x).1 ≠ .ok .applied → (f x).2 = x
  length : ∀ x, (f x).2.files.length = x.files.length
  others : ∀ x, ∀ t ≠ tag, (f x).2.count t = x.count t
  moved : ∀ x, (f x).1 = .ok .applied → ((f x).2.count tag : Int) = x.count tag + delta

/-- Two lists of tags differ in one tag only, which is in `new` by `delta` more often than in `old`. -/
structure Differ (tag : Tag) (delta : Int) (old new : List Tag) : Prop where
  others : ∀ t ≠ tag, (t ∈ new ↔ t ∈ old)
  moved : ((decide (tag ∈ new)).toNat : Int) = (decide (tag ∈ old)).toNat + delta

theorem changes_of_cases {f : TagIndex → Except ProviderError TagChange × TagIndex} {delta : Int}
    (h : ∀ x : TagIndex, ((f x).1 ≠ .ok .applied ∧ (f x).2 = x) ∨
      ∃ file old new, x.tagsOf? file = some old ∧ Differ tag delta old new ∧
        f x = (.ok .applied, ⟨Assoc.set file new x.files⟩)) : Changes f tag delta := by
  refine ⟨fun x hx => ?_, fun x => ?_, fun x t ht => ?_, fun x hx => ?_⟩
  · rcases h x with ⟨-, e⟩ | ⟨file, old, new, -, -, e⟩
    · exact e
    · exact absurd (by rw [e]) hx
  · rcases h x with ⟨-, e⟩ | ⟨file, old, new, ho, -, e⟩
    · rw [e]
    · rw [e]
      exact Assoc.length_set ho
  · rcases h x with ⟨-, e⟩ | ⟨file, old, new, ho, hd, e⟩
    · rw [e]
    · have hc := count_set ho new t
      simp only [hd.others t ht] at hc
      rw [e]
      dsimp only
      omega
  · rcases h x with ⟨hn, -⟩ | ⟨file, old, new, ho, hd, e⟩
    · exact absurd hx hn
    · have hc := count_set ho new tag
      have hm := hd.moved
      rw [e]
      dsimp only
      omega

theorem changes_add (file : String) (tag : Tag) : Changes (fun x => x.add file tag) tag 1 := by
  refine changes_of_cases fun x => ?_
  unfold add
  split
  · exact .inl ⟨by simp, rfl⟩
  · rename_i tags hf
    split_ifs with hm
    · exact .inl ⟨by simp, rfl⟩
    · exact .inr ⟨file, tags, _, hf, ⟨fun t ht => by simp [ht], by simp [hm]⟩, rfl⟩

theorem changes_remove (file : String) (tag : Tag) :
    Changes (fun x => x.remove file tag) tag (-1) := by
  refine changes_of_cases fun x => ?_
  unfold remove
  split
  · exact .inl ⟨by simp, rfl⟩
  · rename_i tags hf
    split_ifs with hm
    · exact .inr ⟨file, tags, _, hf, ⟨fun t ht => by simp [ht], by simp [hm]⟩, rfl⟩
    · exact .inl ⟨by simp, rfl⟩

/-! ## What files carry -/

/-- The file is known and has the tag. -/
def Carries (x : TagIndex) (file : String) (tag : Tag) : Prop :=
  ∃ tags, x.tagsOf? file = some tags ∧ tag ∈ tags

/-- The files of an index. -/
def known (x : TagIndex) : List String := x.files.map Prod.fst

theorem isSome_tagsOf?_iff : (x.tagsOf? file).isSome ↔ file ∈ x.known := by
  rw [tagsOf?, known, List.lookup_isSome_iff, List.mem_map]
  simp only [beq_iff_eq]
  exact exists_congr fun p => and_congr_right fun _ => eq_comm

theorem Carries.mem_known (h : x.Carries file t) : file ∈ x.known := by
  obtain ⟨tags, htags, -⟩ := h
  exact isSome_tagsOf?_iff.mp (by rw [htags]; rfl)

variable {g : String} {old new : List Tag}

theorem known_set (h : x.tagsOf? file = some old) :
    known ⟨Assoc.set file new x.files⟩ = x.known := by
  have hm : file ∈ x.files.map Prod.fst := isSome_tagsOf?_iff.mp (by rw [h]; rfl)
  rw [known, Assoc.keys_set, if_pos hm, known]

theorem carries_set (hg : Carries ⟨Assoc.set file new x.files⟩ g t) :
    x.Carries g t ∨ g = file ∧ t ∈ new := by
  obtain ⟨tags, htags, ht⟩ := hg
  rw [tagsOf?, Assoc.lookup_set] at htags
  by_cases he : g = file
  · rw [if_pos (by simpa using he)] at htags
    cases htags
    exact .inr ⟨he, ht⟩
  · rw [if_neg (by simpa using he)] at htags
    exact .inl ⟨tags, htags, ht⟩

theorem carries_add (x : TagIndex) (file : String) (tag : Tag) :
    (x.add file tag).2.known = x.known ∧
      ∀ g t, (x.add file tag).2.Carries g t → x.Carries g t ∨ g = file ∧ t = tag := by
  unfold add
  split
  · exact ⟨rfl, fun g t h => .inl h⟩
  · rename_i tags htags
    split_ifs
    · exact ⟨rfl, fun g t h => .inl h⟩
    · refine ⟨known_set htags, fun g t h => ?_⟩
      rcases carries_set h with h | ⟨rfl, ht⟩
      · exact .inl h
      · rcases List.mem_append.mp ht with ht | ht
        · exact .inl ⟨tags, htags, ht⟩
        · exact .inr ⟨rfl, List.mem_singleton.mp ht⟩

theorem carries_remove (x : TagIndex) (file : String) (tag : Tag) :
    (x.remove file tag).2.known = x.known ∧
      ∀ g t, (x.remove file tag).2.Carries g t → x.Carries g t := by
  unfold remove
  split
  · exact ⟨rfl, fun g t h => h⟩
  · rename_i tags htags
    split_ifs
    · refine ⟨known_set htags, fun g t h => ?_⟩
      rcases carries_set h with h | ⟨rfl, ht⟩
      · exact h
      · exact ⟨tags, htags, List.mem_of_mem_filter ht⟩
    · exact ⟨rfl, fun g t h => h⟩

/-! ## The counts as a list -/

theorem mem_insertTag {tags : List Tag} : t ∈ insertTag tag tags ↔ t = tag ∨ t ∈ tags := by
  unfold insertTag
  split_ifs with h
  · exact ⟨.inr, fun h' => h'.elim (fun e => e ▸ h) id⟩
  · simp [or_comm]

theorem nodup_insertTag {tags : List Tag} (h : tags.Nodup) : (insertTag tag tags).Nodup := by
  unfold insertTag
  split_ifs with hm
  · exact h
  · exact List.nodup_append.mpr ⟨h, by simp, fun a ha b hb e => hm (by
      rw [List.mem_singleton] at hb
      rwa [← hb, ← e])⟩

theorem mem_foldl_insertTag (ts acc : List Tag) :
    t ∈ ts.foldl (fun acc t => insertTag t acc) acc ↔ t ∈ acc ∨ t ∈ ts := by
  induction ts generalizing acc with
  | nil => simp
  | cons s ts ih => rw [List.foldl_cons, ih, mem_insertTag, List.mem_cons]; tauto

theorem nodup_foldl_insertTag (ts : List Tag) {acc : List Tag} (h : acc.Nodup) :
    (ts.foldl (fun acc t => insertTag t acc) acc).Nodup := by
  induction ts generalizing acc with
  | nil => exact h
  | cons s ts ih => exact ih (nodup_insertTag h)

theorem mem_tags : t ∈ x.tags ↔ 0 < x.count t := by
  rw [tags, mem_foldl_insertTag, count_eq_countP, List.countP_pos_iff]
  simp [List.mem_flatMap]

theorem nodup_tags (x : TagIndex) : x.tags.Nodup := nodup_foldl_insertTag _ List.nodup_nil

/-- **The counts of an index are exactly its positive ones.** -/
theorem mem_counts {c : TagCount} :
    c ∈ x.counts ↔ 0 < x.count c.tag ∧ c.files = x.count c.tag := by
  simp only [counts, List.mem_map, List.mem_mergeSort, mem_tags]
  constructor
  · rintro ⟨t, ht, rfl⟩
    exact ⟨ht, rfl⟩
  · rintro ⟨hp, hc⟩
    exact ⟨c.tag, hp, by rw [← hc]; rfl⟩

theorem counts_eq_nil_iff : x.counts = [] ↔ ∀ t, x.count t = 0 := by
  rw [List.eq_nil_iff_forall_not_mem]
  constructor
  · intro h t
    by_contra hc
    exact h ⟨t.name, t.type, x.count t⟩ (mem_counts.mpr ⟨Nat.pos_of_ne_zero hc, rfl⟩)
  · intro h c hc
    have hp := (mem_counts.mp hc).1
    rw [h] at hp
    exact Nat.lt_irrefl 0 hp

theorem nodup_tag_counts (x : TagIndex) : (x.counts.map TagCount.tag).Nodup := by
  have h : x.counts.map TagCount.tag = x.tags.mergeSort tagPrecedes := by
    rw [counts, List.map_map]
    exact List.map_id _
  rw [h]
  exact (List.mergeSort_perm x.tags tagPrecedes).nodup_iff.mpr x.nodup_tags

end DocSearch.TagIndex
