import Mathlib
import DocSearch.Json.Basic
import DocSearch.Proofs.Assoc
/-!
# Lists ordered by names

* `Ordered`: each name stands once, before the larger ones. `orderFields` makes such lists, and
  **`Ordered.orderFields_eq`**: leaves them as they are.
* `lookup_putField`, `lookup_orderFields_map`: what stands under a name.
-/

namespace DocSearch

variable {α : Type} {fields : List (String × α)} {f : String × α}

/-- Each name stands once, before all larger ones. -/
def Ordered (fields : List (String × α)) : Prop := fields.Pairwise fun f g => f.1 < g.1

theorem mem_putField {name : String} {value : α} (h : f ∈ putField name value fields) :
    f = (name, value) ∨ f ∈ fields := by
  induction fields with
  | nil => exact .inl (List.mem_singleton.mp h)
  | cons g fields ih =>
    rw [putField] at h
    split_ifs at h with heq hlt
    · exact (List.mem_cons.mp h).imp_right (List.mem_cons_of_mem _)
    · exact List.mem_cons.mp h
    · rcases List.mem_cons.mp h with rfl | h
      · exact .inr List.mem_cons_self
      · exact (ih h).imp_right (List.mem_cons_of_mem _)

theorem mem_of_mem_orderFields (h : f ∈ orderFields fields) : f ∈ fields := by
  have hfold : ∀ acc : List (String × α),
      f ∈ fields.foldl (fun acc g => putField g.1 g.2 acc) acc → f ∈ acc ∨ f ∈ fields := by
    clear h
    induction fields with
    | nil => exact fun _ hacc => .inl hacc
    | cons g fields ih =>
      intro acc hacc
      rcases ih _ hacc with hput | hf
      · rcases mem_putField hput with rfl | hf
        · exact .inr List.mem_cons_self
        · exact .inl hf
      · exact .inr (List.mem_cons_of_mem _ hf)
  exact (hfold [] h).resolve_left List.not_mem_nil

theorem Ordered.map {β : Type} (h : Ordered fields) (g : α → β) :
    Ordered (fields.map fun f => (f.1, g f.2)) :=
  List.pairwise_map.mpr h

theorem Ordered.nodup_keys (h : Ordered fields) : (fields.map Prod.fst).Nodup :=
  List.pairwise_map.mpr (h.imp ne_of_lt)

theorem Ordered.putField (h : Ordered fields) (name : String) (value : α) :
    Ordered (putField name value fields) := by
  induction fields with
  | nil => exact List.pairwise_singleton _ _
  | cons g fields ih =>
    obtain ⟨hg, hfields⟩ := List.pairwise_cons.mp h
    rw [DocSearch.putField]
    split_ifs with heq hlt
    · exact List.pairwise_cons.mpr ⟨fun k hk => heq ▸ hg k hk, hfields⟩
    · refine List.pairwise_cons.mpr ⟨fun k hk => ?_, h⟩
      rcases List.mem_cons.mp hk with rfl | hk
      · exact hlt
      · exact hlt.trans (hg k hk)
    · refine List.pairwise_cons.mpr ⟨fun k hk => ?_, ih hfields⟩
      rcases mem_putField hk with rfl | hk
      · exact lt_of_le_of_ne (not_lt.mp hlt) (Ne.symm heq)
      · exact hg k hk

theorem ordered_orderFields (fields : List (String × α)) : Ordered (orderFields fields) := by
  have hfold : ∀ acc, Ordered acc →
      Ordered (fields.foldl (fun acc f => DocSearch.putField f.1 f.2 acc) acc) := by
    induction fields with
    | nil => exact fun _ hacc => hacc
    | cons f fields ih => exact fun acc hacc => ih _ (hacc.putField f.1 f.2)
  exact hfold [] List.Pairwise.nil

theorem putField_of_larger {name : String} {value : α} (h : ∀ g ∈ fields, g.1 < name) :
    putField name value fields = fields ++ [(name, value)] := by
  induction fields with
  | nil => rfl
  | cons g fields ih =>
    obtain ⟨hg, hfields⟩ := List.forall_mem_cons.mp h
    rw [putField, if_neg hg.ne', if_neg hg.asymm, ih hfields]
    rfl

/-- **A list in order stays as it is.** -/
theorem Ordered.orderFields_eq (h : Ordered fields) : orderFields fields = fields := by
  -- The fields go behind those that were put before them.
  have hfold : ∀ acc, Ordered (acc ++ fields) →
      fields.foldl (fun acc f => DocSearch.putField f.1 f.2 acc) acc = acc ++ fields := by
    clear h
    induction fields with
    | nil => simp
    | cons f fields ih =>
      intro acc hacc
      have hlarger : ∀ g ∈ acc, g.1 < f.1 := fun g hg =>
        (List.pairwise_append.mp hacc).2.2 g hg f List.mem_cons_self
      rw [List.foldl_cons, putField_of_larger hlarger]
      simpa using ih (acc ++ [(f.1, f.2)]) (by simpa using hacc)
  exact hfold [] h

theorem lookup_putField (name n : String) (value : α) (fields : List (String × α)) :
    (putField name value fields).lookup n = if n = name then some value else fields.lookup n := by
  induction fields with
  | nil =>
    by_cases hn : n = name
    · simp [putField, hn]
    · simp [putField, Assoc.lookup_cons_of_ne hn, hn]
  | cons g fields ih =>
    obtain ⟨m, v⟩ := g
    by_cases hn : n = name
    · subst hn
      rw [if_pos rfl] at ih ⊢
      rw [putField]
      split_ifs with heq hlt
      · simp
      · simp
      · rw [Assoc.lookup_cons_of_ne heq, ih]
    · rw [if_neg hn] at ih ⊢
      rw [putField]
      split_ifs with heq hlt
      · subst heq
        rw [Assoc.lookup_cons_of_ne hn, Assoc.lookup_cons_of_ne hn]
      · rw [Assoc.lookup_cons_of_ne hn]
      · by_cases hm : n = m
        · simp [hm]
        · rw [Assoc.lookup_cons_of_ne hm, Assoc.lookup_cons_of_ne hm, ih]

theorem lookup_orderFields_map (g : String → α) (names : List String) (n : String) :
    (orderFields (names.map fun m => (m, g m))).lookup n =
      if n ∈ names then some (g n) else none := by
  have hfold : ∀ acc : List (String × α),
      ((names.map fun m => (m, g m)).foldl (fun acc f => DocSearch.putField f.1 f.2 acc) acc).lookup n =
        if n ∈ names then some (g n) else acc.lookup n := by
    induction names with
    | nil => simp
    | cons m names ih =>
      intro acc
      rw [List.map_cons, List.foldl_cons, ih, lookup_putField]
      by_cases hm : n = m
      · simp [hm]
      · simp [hm]
  exact hfold []

end DocSearch
