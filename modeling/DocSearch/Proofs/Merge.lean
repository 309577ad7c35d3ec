import Mathlib
/-!
# Merging and sorting ranked lists

For a total and transitive order that need not tell all elements apart:

* `mergeSort_cons_eq`: sorting inserts the first element into the sorted others, in front of its
  equals.
* **`mergeSort_append`**: two sorted lists, one behind the other, are sorted by merging them.
* **`take_merge`**: the front of a merge is known from the fronts of both lists.
-/

namespace DocSearch.Merge

variable {α : Type} {le : α → α → Bool}

/-- The front of a merge takes no more than that much of both lists. -/
theorem take_merge (le : α → α → Bool) {m i j : Nat} (hi : m ≤ i) (hj : m ≤ j) (l r : List α) :
    ((l.take i).merge (r.take j) le).take m = (l.merge r le).take m := by
  induction m generalizing i j l r with
  | zero => rfl
  | succ m ih =>
    obtain ⟨i, rfl⟩ := Nat.exists_eq_add_of_lt hi
    obtain ⟨j, rfl⟩ := Nat.exists_eq_add_of_lt hj
    cases l with
    | nil =>
      rw [List.take_nil, List.nil_merge, List.nil_merge, List.take_take, Nat.min_eq_left hj]
    | cons a l =>
      cases r with
      | nil =>
        rw [List.take_nil, List.merge_right, List.merge_right, List.take_take, Nat.min_eq_left hi]
      | cons b r =>
        rw [List.take_succ_cons, List.take_succ_cons]
        by_cases h : le a b
        · have e := ih (i := m + i) (j := m + j + 1) (by omega) (by omega) l (b :: r)
          rw [List.take_succ_cons] at e
          rw [List.cons_merge_cons_pos _ _ _ h, List.cons_merge_cons_pos _ _ _ h,
            List.take_succ_cons, List.take_succ_cons, e]
        · have e := ih (i := m + i + 1) (j := m + j) (by omega) (by omega) (a :: l) r
          rw [List.take_succ_cons] at e
          rw [List.cons_merge_cons_neg _ _ _ h, List.cons_merge_cons_neg _ _ _ h,
            List.take_succ_cons, List.take_succ_cons, e]

/-! ## Insertion -/

theorem orderedInsert_append {a : α} {l r : List α} (hl : ∀ b ∈ l, ¬ le a b)
    (hr : ∀ b ∈ r, le a b) : (l ++ r).orderedInsert (fun x y => le x y) a = l ++ a :: r := by
  induction l with
  | nil =>
    cases r with
    | nil => rfl
    | cons b r => exact List.orderedInsert_cons_of_le _ _ (hr b List.mem_cons_self)
  | cons b l ih =>
    have hb : ¬ le a b := hl b List.mem_cons_self
    have h := ih fun c hc => hl c (List.mem_cons_of_mem _ hc)
    rw [List.cons_append, List.orderedInsert_cons, if_neg hb, h, List.cons_append]

section Order

variable (trans : ∀ a b c, le a b → le b c → le a c) (total : ∀ a b, le a b || le b a)

include trans

theorem orderedInsert_merge {a : α} {l : List α} (hl : (a :: l).Pairwise fun x y => le x y)
    (r : List α) :
    (l.merge r le).orderedInsert (fun x y => le x y) a = (a :: l).merge r le := by
  have ha := (List.pairwise_cons.mp hl).1
  induction r with
  | nil =>
    rw [List.merge_right, List.merge_right]
    exact orderedInsert_append (l := []) (by simp) ha
  | cons b r ih =>
    by_cases hab : le a b
    · rw [List.cons_merge_cons_pos _ _ _ hab]
      cases l with
      | nil => rw [List.nil_merge, List.orderedInsert_cons, if_pos hab]
      | cons c l =>
        -- The merge starts with `b` or with `c`, and `a` precedes both.
        have hac : le a c := ha c List.mem_cons_self
        rw [List.cons_merge_cons]
        split_ifs with hcb
        · rw [List.orderedInsert_cons, if_pos hac]
        · rw [List.orderedInsert_cons, if_pos hab]
    · have hm : l.merge (b :: r) le = b :: l.merge r le := by
        cases l with
        | nil => rw [List.nil_merge, List.nil_merge]
        | cons c l =>
          have hcb : ¬ le c b := fun h => hab (trans a c b (ha c List.mem_cons_self) h)
          rw [List.cons_merge_cons_neg _ _ _ hcb]
      rw [hm, List.orderedInsert_cons, if_neg hab, ih, List.cons_merge_cons_neg _ _ _ hab]

include total

theorem mergeSort_cons_eq (a : α) (l : List α) :
    (a :: l).mergeSort le = (l.mergeSort le).orderedInsert (fun x y => le x y) a := by
  obtain ⟨l₁, l₂, h, h', hl⟩ := List.mergeSort_cons trans total a l
  have hs : (l₁ ++ a :: l₂).Pairwise (fun x y => le x y) := h ▸ List.pairwise_mergeSort trans total _
  rw [h, h', orderedInsert_append (fun b hb => by simpa using hl b hb)]
  exact (List.pairwise_cons.mp (List.pairwise_append.mp hs).2.1).1

/-- **Sorting two sorted lists, one behind the other, merges them.** -/
theorem mergeSort_append {l r : List α} (hl : l.Pairwise fun x y => le x y)
    (hr : r.Pairwise fun x y => le x y) : (l ++ r).mergeSort le = l.merge r le := by
  induction l with
  | nil => rw [List.nil_append, List.nil_merge, List.mergeSort_of_pairwise hr]
  | cons a l ih =>
    rw [List.cons_append, mergeSort_cons_eq trans total, ih hl.of_cons, orderedInsert_merge trans hl]

end Order

end DocSearch.Merge
