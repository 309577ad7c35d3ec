import Mathlib
import DocSearch.Assoc
/-!
# What can be looked up in a list of keys with values

* `lookup_set`, `lookup_setAll_append`, `lookup_erase`, `lookup_filter`, `lookup_map`: the view after a
  change.
* `nodup_keys_set`, `setAll_nil`: each key stands once; setting new pairs writes them as they are.
* `erase_set`: what was set is gone with its key. `set_ne_nil`, `setAll_ne_nil`: setting leaves pairs.
* `countP_set`: how many pairs satisfy a condition after one value was replaced.
-/

namespace DocSearch.Assoc

variable {κ α : Type} [BEq κ] [LawfulBEq κ]

theorem lookup_cons_of_ne {k k' : κ} (h : k ≠ k') (v : α) (rest : List (κ × α)) :
    ((k', v) :: rest).lookup k = rest.lookup k := by
  rw [List.lookup_cons, beq_false_of_ne h]

theorem lookup_set (key k : κ) (value : α) (pairs : List (κ × α)) :
    (set key value pairs).lookup k = if k == key then some value else pairs.lookup k := by
  induction pairs with
  | nil =>
    by_cases hk : k = key
    · simp [set, hk]
    · simp [set, lookup_cons_of_ne hk, hk]
  | cons p rest ih =>
    obtain ⟨k', v⟩ := p
    by_cases h : key = k'
    · subst h
      by_cases hk : k = key
      · simp [set, hk]
      · simp [set, lookup_cons_of_ne hk, hk]
    · rw [set, if_neg (by simpa using h)]
      by_cases hk : k = k'
      · subst hk
        simp [Ne.symm h]
      · rw [lookup_cons_of_ne hk, lookup_cons_of_ne hk, ih]

theorem lookup_erase (key k : κ) (pairs : List (κ × α)) :
    (erase key pairs).lookup k = if k == key then none else pairs.lookup k := by
  induction pairs with
  | nil => simp [erase]
  | cons p rest ih =>
    obtain ⟨k', v⟩ := p
    unfold erase at ih ⊢
    by_cases h : key = k'
    · subst h
      rw [List.filter_cons_of_neg (by simp), ih]
      by_cases hk : k = key
      · simp [hk]
      · simp [lookup_cons_of_ne hk, hk]
    · rw [List.filter_cons_of_pos (by simpa using h)]
      by_cases hk : k = k'
      · subst hk
        simp [Ne.symm h]
      · rw [lookup_cons_of_ne hk, lookup_cons_of_ne hk, ih]

theorem lookup_filter {f : κ × α → Bool} {k : κ} {pairs : List (κ × α)}
    (h : ∀ p ∈ pairs, p.1 = k → f p = true) : (pairs.filter f).lookup k = pairs.lookup k := by
  induction pairs with
  | nil => rfl
  | cons p rest ih =>
    obtain ⟨k', v⟩ := p
    have ih := ih fun q hq => h q (List.mem_cons_of_mem _ hq)
    by_cases hk : k = k'
    · subst hk
      rw [List.filter_cons_of_pos (h _ List.mem_cons_self rfl)]
      simp
    · rw [lookup_cons_of_ne hk, ← ih]
      by_cases hf : f (k', v) = true
      · rw [List.filter_cons_of_pos hf, lookup_cons_of_ne hk]
      · rw [List.filter_cons_of_neg hf]

theorem lookup_map {β : Type} (g : α → β) (k : κ) (pairs : List (κ × α)) :
    (pairs.map fun p => (p.1, g p.2)).lookup k = (pairs.lookup k).map g := by
  induction pairs with
  | nil => rfl
  | cons p rest ih =>
    obtain ⟨k', v⟩ := p
    by_cases hk : k = k'
    · simp [hk]
    · rw [List.map_cons, lookup_cons_of_ne hk, lookup_cons_of_ne hk, ih]

theorem mem_of_lookup {k : κ} {v : α} {pairs : List (κ × α)} (h : pairs.lookup k = some v) :
    (k, v) ∈ pairs := by
  obtain ⟨l₁, l₂, rfl, -⟩ := List.lookup_eq_some_iff.mp h
  simp

theorem mem_iff_lookup {k : κ} {v : α} {pairs : List (κ × α)} (h : (pairs.map Prod.fst).Nodup) :
    (k, v) ∈ pairs ↔ pairs.lookup k = some v := by
  refine ⟨fun hm => ?_, mem_of_lookup⟩
  induction pairs with
  | nil => simp at hm
  | cons p rest ih =>
    obtain ⟨k', v'⟩ := p
    simp only [List.map_cons, List.nodup_cons] at h
    rcases List.mem_cons.mp hm with e | hm
    · cases e
      simp
    · have hk : k ≠ k' := fun e => h.1 (e ▸ List.mem_map_of_mem (f := Prod.fst) hm)
      rw [lookup_cons_of_ne hk, ih h.2 hm]

theorem mem_set {key : κ} {value : α} {p : κ × α} {pairs : List (κ × α)}
    (h : p ∈ set key value pairs) : p = (key, value) ∨ p ∈ pairs := by
  induction pairs with
  | nil => exact .inl (by simpa [set] using h)
  | cons q rest ih =>
    by_cases hq : key = q.1
    · rw [set, if_pos (beq_iff_eq.mpr hq), List.mem_cons] at h
      rcases h with rfl | h
      · exact .inl (by rw [hq])
      · exact .inr (List.mem_cons_of_mem _ h)
    · rw [set, if_neg (by simpa using hq), List.mem_cons] at h
      rcases h with rfl | h
      · exact .inr List.mem_cons_self
      · exact (ih h).imp_right (List.mem_cons_of_mem _)

theorem keys_set (key : κ) (value : α) (pairs : List (κ × α)) :
    (set key value pairs).map Prod.fst =
      if key ∈ pairs.map Prod.fst then pairs.map Prod.fst else pairs.map Prod.fst ++ [key] := by
  induction pairs with
  | nil => simp [set]
  | cons q rest ih =>
    by_cases hq : key = q.1
    · simp [set, hq]
    · rw [set, if_neg (by simpa using hq), List.map_cons, ih]
      by_cases hm : key ∈ rest.map Prod.fst
      · rw [if_pos hm, if_pos (by simpa using .inr (by simpa using hm)), List.map_cons]
      · rw [if_neg hm, if_neg (by simpa [hq] using hm)]
        simp

theorem erase_set (key : κ) (value : α) (pairs : List (κ × α)) :
    erase key (set key value pairs) = erase key pairs := by
  induction pairs with
  | nil => simp [set, erase]
  | cons q rest ih =>
    rw [erase, erase] at ih
    by_cases hq : key = q.1
    · rw [set, if_pos (beq_iff_eq.mpr hq), erase, erase,
        List.filter_cons_of_neg (by simpa using hq), List.filter_cons_of_neg (by simpa using hq)]
    · rw [set, if_neg (by simpa using hq), erase, erase, List.filter_cons_of_pos (by simpa using hq),
        List.filter_cons_of_pos (by simpa using hq), ih]

theorem lookup_setAll_append (before : List (κ × α)) {key : κ} (value : α) {behind : List (κ × α)}
    (h : ∀ p ∈ behind, p.1 ≠ key) (pairs : List (κ × α)) :
    (setAll (before ++ (key, value) :: behind) pairs).lookup key = some value := by
  have hkeep : ∀ pairs : List (κ × α), (setAll behind pairs).lookup key = pairs.lookup key := by
    induction behind with
    | nil => exact fun _ => rfl
    | cons p behind ih =>
      intro pairs
      have hp : ¬ (key == p.1) = true := by simpa using (h p List.mem_cons_self).symm
      have hset := ih (fun q hq => h q (List.mem_cons_of_mem _ hq)) (set p.1 p.2 pairs)
      rw [lookup_set, if_neg hp] at hset
      exact hset
  have hsplit : setAll (before ++ (key, value) :: behind) pairs =
      setAll behind (set key value (setAll before pairs)) := by
    rw [setAll, List.foldl_append]
    rfl
  rw [hsplit, hkeep, lookup_set, if_pos BEq.rfl]

theorem nodup_keys_set {key : κ} {value : α} {pairs : List (κ × α)}
    (h : (pairs.map Prod.fst).Nodup) : ((set key value pairs).map Prod.fst).Nodup := by
  rw [keys_set]
  split_ifs with hk
  · exact h
  · exact List.nodup_append.mpr ⟨h, by simp, fun a ha b hb e => hk (by
      rw [List.mem_singleton] at hb
      rwa [← hb, ← e])⟩

omit [LawfulBEq κ] in
theorem nodup_keys_erase {key : κ} {pairs : List (κ × α)} (h : (pairs.map Prod.fst).Nodup) :
    ((erase key pairs).map Prod.fst).Nodup :=
  (List.filter_sublist.map Prod.fst).nodup h

theorem length_set {key : κ} {value old : α} {pairs : List (κ × α)}
    (h : pairs.lookup key = some old) : (set key value pairs).length = pairs.length := by
  have hk : key ∈ pairs.map Prod.fst := List.mem_map_of_mem (f := Prod.fst) (mem_of_lookup h)
  have := congrArg List.length (keys_set key value pairs)
  rwa [if_pos hk, List.length_map, List.length_map] at this

omit [LawfulBEq κ] in
theorem set_ne_nil (key : κ) (value : α) (pairs : List (κ × α)) : set key value pairs ≠ [] := by
  cases pairs with
  | nil => exact List.cons_ne_nil _ _
  | cons q rest =>
    rw [set]
    split_ifs <;> exact List.cons_ne_nil _ _

omit [LawfulBEq κ] in
theorem setAll_ne_nil {news : List (κ × α)} (h : news ≠ []) (pairs : List (κ × α)) :
    setAll news pairs ≠ [] := by
  induction news generalizing pairs with
  | nil => exact absurd rfl h
  | cons p news ih =>
    cases news with
    | nil => exact set_ne_nil p.1 p.2 pairs
    | cons q news => exact ih (List.cons_ne_nil q news) (set p.1 p.2 pairs)

theorem set_of_not_mem {key : κ} {value : α} {pairs : List (κ × α)}
    (h : key ∉ pairs.map Prod.fst) : set key value pairs = pairs ++ [(key, value)] := by
  induction pairs with
  | nil => rfl
  | cons q rest ih =>
    simp only [List.map_cons, List.mem_cons, not_or] at h
    rw [set, if_neg (by simpa using h.1), ih h.2, List.cons_append]

theorem setAll_append {news pairs : List (κ × α)} (h : ((pairs ++ news).map Prod.fst).Nodup) :
    setAll news pairs = pairs ++ news := by
  induction news generalizing pairs with
  | nil => simp [setAll]
  | cons p news ih =>
    have hp : p.1 ∉ pairs.map Prod.fst := by
      intro hm
      rw [List.map_append, List.nodup_append] at h
      exact h.2.2 _ hm _ (by simp) rfl
    have hs : setAll news (pairs ++ [p]) = pairs ++ [p] ++ news := ih (by simpa using h)
    rw [setAll, List.foldl_cons, set_of_not_mem hp]
    simpa [setAll] using hs

theorem setAll_nil {news : List (κ × α)} (h : (news.map Prod.fst).Nodup) :
    setAll news [] = news := by
  have hs : setAll news [] = [] ++ news := setAll_append (by simpa using h)
  rwa [List.nil_append] at hs

/-- Replacing a value moves the number of pairs that satisfy a condition by the old and the new
pair only. -/
theorem countP_set (f : κ × α → Bool) {key : κ} {value old : α} {pairs : List (κ × α)}
    (h : pairs.lookup key = some old) :
    (set key value pairs).countP f + (f (key, old)).toNat =
      pairs.countP f + (f (key, value)).toNat := by
  induction pairs with
  | nil => simp at h
  | cons q rest ih =>
    obtain ⟨k, v⟩ := q
    by_cases hk : key = k
    · subst hk
      obtain rfl : v = old := by simpa using h
      simp only [set, beq_self_eq_true, if_true, List.countP_cons]
      cases f (key, v) <;> cases f (key, value) <;> simp
    · rw [lookup_cons_of_ne hk] at h
      have hs := ih h
      simp only [set, beq_iff_eq, hk, if_false, List.countP_cons]
      omega

end DocSearch.Assoc
