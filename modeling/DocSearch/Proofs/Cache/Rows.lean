import Mathlib
import DocSearch.Cache.Basic
import DocSearch.Proofs.Tag
import DocSearch.Proofs.TagIndex
/-!
# Tallies, and the rows and lists that tell them

* `Tally`: a number of files for each tag; `Tally.Rows` and `Tally.Listed` say when rows of the cache
  and a list of counts tell a tally, neither more nor less.
* `rows_counts`: the rows that the hydration writes tell the tally of the index.
* `Rows.set`, `Rows.erase`: one count moves.
* **`Rows.listed`**: what is read from rows that tell a tally is the list of that tally, in order.
-/

namespace DocSearch

/-- A number of files for each tag. -/
abbrev Tally : Type := Tag → Nat

namespace Tally

/-- The rows tell the tally: one row for each tag with a positive number, and no other row. -/
structure Rows (n : Tally) (rows : List (String × String)) : Prop where
  once : (rows.map Prod.fst).Nodup
  mem_iff : ∀ r, r ∈ rows ↔ ∃ t, 0 < n t ∧ r = (t.cacheField, toString (n t))

/-- The list tells the tally: one entry for each tag with a positive number, and no other entry,
more files first, then by type, then by name. -/
structure Listed (n : Tally) (l : List TagCount) : Prop where
  mem_iff : ∀ c, c ∈ l ↔ 0 < n c.tag ∧ c.files = n c.tag
  once : (l.map TagCount.tag).Nodup
  ordered : l.Pairwise TagCount.Before

/-! ## Rows -/

section Rows

variable {n n' : Tally} {rows : List (String × String)} {tag : Tag}

theorem rows_nil (h : ∀ t, n t = 0) : n.Rows [] :=
  ⟨List.nodup_nil, fun r => by simp [h]⟩

theorem Rows.lookup (h : n.Rows rows) (t : Tag) :
    rows.lookup t.cacheField = if 0 < n t then some (toString (n t)) else none := by
  split_ifs with ht
  · exact (Assoc.mem_iff_lookup h.once).mp ((h.mem_iff _).mpr ⟨t, ht, rfl⟩)
  · cases hl : rows.lookup t.cacheField with
    | none => rfl
    | some v =>
      obtain ⟨s, hs, e⟩ := (h.mem_iff _).mp (Assoc.mem_of_lookup hl)
      rw [Tag.cacheField_injective (Prod.mk.inj e).1] at ht
      exact absurd hs ht

theorem Rows.set (h : n.Rows rows) (hn : ∀ t ≠ tag, n' t = n t) (hp : 0 < n' tag) :
    n'.Rows (Assoc.set tag.cacheField (toString (n' tag)) rows) := by
  have ho : ((Assoc.set tag.cacheField (toString (n' tag)) rows).map Prod.fst).Nodup :=
    Assoc.nodup_keys_set h.once
  refine ⟨ho, ?_⟩
  rintro ⟨f, v⟩
  rw [Assoc.mem_iff_lookup ho, Assoc.lookup_set]
  by_cases hf : f = tag.cacheField
  · subst hf
    simp only [beq_self_eq_true, if_true, Option.some.injEq]
    constructor
    · rintro rfl
      exact ⟨tag, hp, rfl⟩
    · rintro ⟨t, -, e⟩
      obtain ⟨e₁, rfl⟩ := Prod.mk.inj e
      rw [Tag.cacheField_injective e₁]
  · rw [if_neg (by simpa using hf), ← Assoc.mem_iff_lookup h.once, h.mem_iff]
    refine exists_congr fun t => ?_
    by_cases ht : t = tag
    · subst ht
      simp [hf]
    · rw [hn t ht]

theorem Rows.erase (h : n.Rows rows) (hn : ∀ t ≠ tag, n' t = n t) (hz : n' tag = 0) :
    n'.Rows (Assoc.erase tag.cacheField rows) := by
  refine ⟨Assoc.nodup_keys_erase h.once, fun r => ?_⟩
  rw [Assoc.erase, List.mem_filter, h.mem_iff]
  constructor
  · rintro ⟨⟨t, ht, rfl⟩, hr⟩
    have hne : t ≠ tag := by
      rintro rfl
      simp at hr
    exact ⟨t, by rwa [hn t hne], by rw [hn t hne]⟩
  · rintro ⟨t, ht, rfl⟩
    have hne : t ≠ tag := by
      rintro rfl
      omega
    rw [hn t hne] at ht ⊢
    refine ⟨⟨t, ht, rfl⟩, ?_⟩
    simpa using fun e => hne (Tag.cacheField_injective e).symm

/-- **The hydration writes the rows of the index.** -/
theorem rows_counts (x : TagIndex) : Rows x.count (x.counts.map TagCount.toRow) := by
  constructor
  · have h : (x.counts.map TagCount.toRow).map Prod.fst =
        (x.counts.map TagCount.tag).map Tag.cacheField := by simp [TagCount.toRow_eq]
    rw [h]
    exact x.nodup_tag_counts.map fun a b => Tag.cacheField_injective
  · intro r
    simp only [List.mem_map, TagIndex.mem_counts]
    constructor
    · rintro ⟨c, ⟨hp, hc⟩, rfl⟩
      exact ⟨c.tag, hp, by rw [TagCount.toRow_eq, hc]⟩
    · rintro ⟨t, ht, rfl⟩
      exact ⟨⟨t.name, t.type, x.count t⟩, ⟨ht, rfl⟩, rfl⟩

end Rows

/-! ## Lists -/

section Listed

variable {n : Tally} {rows : List (String × String)}

theorem Rows.ofRow? (h : n.Rows rows) (hb : ∀ t, n t < Text.signedBound) {r : String × String}
    (hr : r ∈ rows) :
    ∃ t, 0 < n t ∧ r.1 = t.cacheField ∧ TagCount.ofRow? r.1 r.2 = some ⟨t.name, t.type, n t⟩ := by
  obtain ⟨t, ht, rfl⟩ := (h.mem_iff r).mp hr
  exact ⟨t, ht, rfl, TagCount.ofRow?_cacheField t ht (hb t)⟩

theorem Rows.mem_filterMap (h : n.Rows rows) (hb : ∀ t, n t < Text.signedBound) (c : TagCount) :
    c ∈ rows.filterMap (fun r => TagCount.ofRow? r.1 r.2) ↔ 0 < n c.tag ∧ c.files = n c.tag := by
  rw [List.mem_filterMap]
  constructor
  · rintro ⟨r, hr, hc⟩
    obtain ⟨t, ht, -, e⟩ := h.ofRow? hb hr
    obtain rfl := Option.some.inj (e.symm.trans hc)
    exact ⟨ht, rfl⟩
  · rintro ⟨hp, hc⟩
    refine ⟨_, (h.mem_iff _).mpr ⟨c.tag, hp, rfl⟩, ?_⟩
    rw [TagCount.ofRow?_cacheField c.tag hp (hb _), ← hc]
    rfl

theorem Rows.nodup_filterMap (h : n.Rows rows) (hb : ∀ t, n t < Text.signedBound) :
    ((rows.filterMap fun r => TagCount.ofRow? r.1 r.2).map TagCount.tag).Nodup := by
  have ho : rows.Pairwise fun a b => a.1 ≠ b.1 := List.pairwise_map.mp h.once
  rw [List.Nodup, List.pairwise_map, List.pairwise_filterMap]
  refine ho.imp_of_mem fun {a b} ha hb' hne c hc c' hc' e => hne ?_
  obtain ⟨t, -, ha₁, ea⟩ := h.ofRow? hb ha
  obtain ⟨t', -, hb₁, eb⟩ := h.ofRow? hb hb'
  obtain rfl := Option.some.inj (ea.symm.trans hc)
  obtain rfl := Option.some.inj (eb.symm.trans hc')
  have ht : t = t' := e
  rw [ha₁, hb₁, ht]

/-- **What is read from the rows of a tally is its list.** -/
theorem Rows.listed (h : n.Rows rows) (hb : ∀ t, n t < Text.signedBound) :
    n.Listed (Cache.countsOfRows rows) := by
  have hn := h.nodup_filterMap hb
  refine ⟨fun c => ?_, ?_, TagCount.pairwise_sort (List.Nodup.of_map _ hn)⟩
  · rw [Cache.countsOfRows, TagCount.mem_sort, h.mem_filterMap hb]
  · exact ((TagCount.sort_perm _).map TagCount.tag).nodup_iff.mpr hn

end Listed

end Tally

end DocSearch
