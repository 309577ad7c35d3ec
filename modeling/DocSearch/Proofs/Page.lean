import Mathlib
import DocSearch.Page
import DocSearch.Proofs.Binary64.Order
import DocSearch.Proofs.Merge
import DocSearch.Proofs.Page.Parse
import DocSearch.Request.Compile
/-!
# A walk over the pages

* `SearchAnswer.window`: what the backend answers to a request, out of all hits of a class.
* `FileHit.Precedes`: the order of hits by their scores. `FileHit.rank_le_iff`: hits are ranked in it.
* `mergedHits`: two rankings merged. `rankedHits_eq_merge`: so are they ranked together.
* `Page.cut_window`: one page is cut out of the whole merge.
* `Page.walk`: the pages of a size, each out of the answers to its own two requests.
* **`Page.walk_eq_take_merge`**: the pages lie side by side in the merge of both rankings.
-/

namespace DocSearch

/-- The hits of an answer that a request asks for. -/
def SearchAnswer.window (a : SearchAnswer) (r : SearchRequest) : SearchAnswer :=
  { a with hits := (a.hits.drop r.offset).take r.size }

namespace FileHit

/-- The first of two hits may stand in front of the second: its score is no lower in the total order, a
missing score being zero. -/
def Precedes (a b : FileHit) : Prop := (b.score.getD ⟨0⟩).AtMost (a.score.getD ⟨0⟩)

instance : DecidableRel Precedes := fun _ _ => inferInstanceAs (Decidable (Binary64.AtMost _ _))

variable {a b : FileHit}

theorem rank_le_iff : b.rank ≤ a.rank ↔ a.Precedes b := Binary64.orderKey_le_iff

theorem precedes_trans (a b c : FileHit) :
    decide (Precedes a b) → decide (Precedes b c) → decide (Precedes a c) := by
  simp only [decide_eq_true_eq, ← rank_le_iff]
  exact fun hab hbc => Int.le_trans hbc hab

theorem precedes_total (a b : FileHit) : decide (Precedes a b) || decide (Precedes b a) := by
  rw [Bool.or_eq_true, decide_eq_true_eq, decide_eq_true_eq, ← rank_le_iff, ← rank_le_iff]
  exact Int.le_total b.rank a.rank

end FileHit

/-- Two rankings merged; of hits of one score, those of the first come first. -/
def mergedHits (first second : List FileHit) : List FileHit :=
  first.merge second fun a b => decide (a.Precedes b)

section Ranking

variable {first second : List FileHit}

theorem rankedHits_eq_merge (h₁ : first.Pairwise FileHit.Precedes)
    (h₂ : second.Pairwise FileHit.Precedes) : rankedHits first second = mergedHits first second := by
  simp only [rankedHits, FileHit.rank_le_iff]
  exact Merge.mergeSort_append FileHit.precedes_trans FileHit.precedes_total
    (h₁.imp decide_eq_true) (h₂.imp decide_eq_true)

theorem mergedHits_perm (first second : List FileHit) :
    (mergedHits first second).Perm (first ++ second) := List.merge_perm_append _

theorem pairwise_mergedHits (h₁ : first.Pairwise FileHit.Precedes)
    (h₂ : second.Pairwise FileHit.Precedes) :
    (mergedHits first second).Pairwise FileHit.Precedes :=
  (List.pairwise_merge FileHit.precedes_trans FileHit.precedes_total first second
    (h₁.imp decide_eq_true) (h₂.imp decide_eq_true)).imp of_decide_eq_true

end Ranking

namespace Page

/-! ## One page -/

theorem parse_toString {number size : Nat} (h₁ : 1 ≤ size) (h₂ : size ≤ maxSize)
    (h : number * size + size ≤ resultWindow) :
    parse (some (toString number)) (some (toString size)) = .ok ⟨number, size, number * size⟩ := by
  have hn : number < Text.wordBound := by
    have : number * 1 ≤ number * size := Nat.mul_le_mul_left number h₁
    unfold resultWindow at h
    unfold Text.wordBound
    omega
  have hs : size < Text.wordBound := by
    unfold maxSize at h₂
    unfold Text.wordBound
    omega
  refine parse_eq_ok_iff.mpr ⟨asked_toString 0 hn, asked_toString 10 hs, ⟨h₁, h₂⟩, ?_, rfl⟩
  rw [Nat.succ_mul]
  exact h

/-- **A page is cut out of the whole merge**, though only its fronts are asked for. -/
theorem cut_window (q : Query) {listing large : SearchAnswer} (p : Page)
    (hl : listing.hits.Pairwise FileHit.Precedes) (hg : large.hits.Pairwise FileHit.Precedes) :
    p.cut (listing.window (q.page 0 p.depth .listing)) (large.window (q.page 0 p.depth .largeFile)) =
      (listing.total + large.total,
        ((mergedHits listing.hits large.hits).drop p.offset).take p.size) := by
  have hm : rankedHits (listing.hits.take p.depth) (large.hits.take p.depth) =
      mergedHits (listing.hits.take p.depth) (large.hits.take p.depth) :=
    rankedHits_eq_merge (hl.sublist (List.take_sublist _ _)) (hg.sublist (List.take_sublist _ _))
  have ht : (mergedHits (listing.hits.take p.depth) (large.hits.take p.depth)).take p.depth =
      (mergedHits listing.hits large.hits).take p.depth := Merge.take_merge _ le_rfl le_rfl _ _
  unfold cut
  congr 1
  calc ((rankedHits (listing.hits.take p.depth) (large.hits.take p.depth)).drop p.offset).take p.size
      = ((mergedHits (listing.hits.take p.depth) (large.hits.take p.depth)).take p.depth).drop
          p.offset := by rw [hm, List.take_drop, depth]
    _ = ((mergedHits listing.hits large.hits).drop p.offset).take p.size := by
        rw [ht, List.take_drop, depth]

/-! ## All pages -/

/-- The first `k` pages of a size, when both classes hold these hits. -/
def walk (q : Query) (listing large : SearchAnswer) (size k : Nat) :
    Except ValidationError (List (Nat × List FileHit)) :=
  (List.range k).mapM fun number => do
    let page ← parse (some (toString number)) (some (toString size))
    return page.cut (listing.window (q.page 0 page.depth .listing))
      (large.window (q.page 0 page.depth .largeFile))

theorem flatMap_pieces {α : Type} (l : List α) (size k : Nat) :
    ((List.range k).flatMap fun i => (l.drop (i * size)).take size) = l.take (k * size) := by
  induction k with
  | zero => simp
  | succ k ih =>
    rw [List.range_succ, List.flatMap_append, ih, List.flatMap_singleton, Nat.succ_mul,
      List.take_add]

theorem mapM_eq_ok {α β ε : Type} {f : α → Except ε β} {g : α → β} {l : List α}
    (h : ∀ a ∈ l, f a = .ok (g a)) : l.mapM f = .ok (l.map g) := by
  induction l with
  | nil => rfl
  | cons a l ih =>
    rw [List.mapM_cons, h a List.mem_cons_self, ih fun b hb => h b (List.mem_cons_of_mem _ hb)]
    rfl

/-- **The pages of a walk lie side by side in the merge of both rankings**, so that no hit is passed
over or shown twice, scores never rise, and every page tells the number of all hits. -/
theorem walk_eq_take_merge (q : Query) {listing large : SearchAnswer} {size k : Nat}
    (hl : listing.hits.Pairwise FileHit.Precedes) (hg : large.hits.Pairwise FileHit.Precedes)
    (h₁ : 1 ≤ size) (h₂ : size ≤ 200) (hk : k * size ≤ 10000) :
    ∃ pages rest, walk q listing large size k = .ok pages ∧ pages.length = k ∧
      pages.flatMap Prod.snd = (mergedHits listing.hits large.hits).take (k * size) ∧
      (pages.flatMap Prod.snd ++ rest).Perm (listing.hits ++ large.hits) ∧
      (pages.flatMap Prod.snd ++ rest).Pairwise FileHit.Precedes ∧
      (pages.flatMap Prod.snd).Pairwise (fun a b =>
        (b.score.getD ⟨0⟩).value ≤ (a.score.getD ⟨0⟩).value) ∧
      ∀ page ∈ pages, page.1 = listing.total + large.total := by
  set merged := mergedHits listing.hits large.hits
  have hw : walk q listing large size k = .ok ((List.range k).map fun number =>
      (listing.total + large.total, (merged.drop (number * size)).take size)) := by
    refine mapM_eq_ok fun number hn => ?_
    -- The page ends where the last one does or before, hence within the result window.
    have hlt : (number + 1) * size ≤ k * size := Nat.mul_le_mul_right size (List.mem_range.mp hn)
    rw [Nat.succ_mul] at hlt
    rw [parse_toString h₁ h₂ (hlt.trans hk)]
    exact congrArg Except.ok (cut_window q _ hl hg)
  have hs : ((List.range k).map fun number =>
      (listing.total + large.total, (merged.drop (number * size)).take size)).flatMap Prod.snd =
        merged.take (k * size) := by
    rw [List.flatMap_map]
    exact flatMap_pieces merged size k
  have hm : merged.Pairwise FileHit.Precedes := pairwise_mergedHits hl hg
  refine ⟨_, merged.drop (k * size), hw, by simp, hs, ?_, ?_, ?_, ?_⟩
  · rw [hs, List.take_append_drop]
    exact mergedHits_perm _ _
  · rwa [hs, List.take_append_drop]
  · rw [hs]
    exact (hm.sublist (List.take_sublist _ _)).imp fun h => h.value_le
  · intro page hp
    obtain ⟨number, -, rfl⟩ := List.mem_map.mp hp
    rfl

/-- A hit with the word of its score. -/
def scoredHit (fileId : String) (score : Option UInt64) : FileHit :=
  { fileId, score := score.map Binary64.mk }

/-- Hits with the scores 5, 2, 0 for want of any, and -1. -/
def listedHits : List FileHit :=
  [scoredHit "a" (some 0x4014000000000000), scoredHit "b" (some 0x4000000000000000),
    scoredHit "c" none, scoredHit "d" (some 0xBFF0000000000000)]

/-- Hits with the scores 5, 3, -0 and -2. -/
def largeHits : List FileHit :=
  [scoredHit "e" (some 0x4014000000000000), scoredHit "f" (some 0x4008000000000000),
    scoredHit "g" (some 0x8000000000000000), scoredHit "h" (some 0xC000000000000000)]

/-- Two rankings whose scores alternate, on three pages. -/
theorem walk_eq_take_merge_alternating :
    listedHits.Pairwise FileHit.Precedes ∧ largeHits.Pairwise FileHit.Precedes ∧
      ∃ pages, walk {} ⟨4, listedHits, .null⟩ ⟨4, largeHits, .null⟩ 3 3 = .ok pages ∧
        pages.length = 3 ∧
        (pages.flatMap Prod.snd).map FileHit.fileId = ["a", "e", "f", "b", "c", "g", "d", "h"] ∧
        ∀ page ∈ pages, page.1 = 8 := by
  have hl : listedHits.Pairwise FileHit.Precedes := by decide
  have hg : largeHits.Pairwise FileHit.Precedes := by decide
  have hm : (mergedHits listedHits largeHits).map FileHit.fileId =
      ["a", "e", "f", "b", "c", "g", "d", "h"] := by
    simp [mergedHits, listedHits, largeHits, scoredHit, FileHit.Precedes, Binary64.AtMost]
  obtain ⟨pages, rest, hw, hk, hs, -, -, -, ht⟩ :=
    @walk_eq_take_merge {} ⟨4, listedHits, .null⟩ ⟨4, largeHits, .null⟩ 3 3 hl hg (by omega)
      (by omega) (by omega)
  refine ⟨hl, hg, pages, hw, hk, ?_, ht⟩
  rw [hs, List.map_take]
  exact congrArg (List.take 9) hm

end Page

end DocSearch
