import Mathlib
import DocSearch.Proofs.Cache.Run
import DocSearch.Proofs.Tag
/-!
# The list that the rows of the cache tell

The rows of a hash have no order of their own. What is read from them has one, and it leaves no choice.

* `Cache.Tells`: a list has every count as often as rows say it, and it is in order.
* `tells_countsOfRows`: what is read from rows is such a list. `Tells.unique`: there is no other one,
  however the rows are enumerated.
* **`read_tells`**: reading the cache gives that list.
-/

namespace DocSearch.Cache

/-- The list has every count as often as rows say it, more files first, then by type, then by name. -/
structure Tells (rows : List (String × String)) (l : List TagCount) : Prop where
  count : ∀ c, l.count c = rows.countP fun r => c.IsRow r.1 r.2
  ordered : l.Pairwise TagCount.NotAfter

variable {rows rows' : List (String × String)} {l l' : List TagCount}

theorem tells_countsOfRows (rows : List (String × String)) : Tells rows (countsOfRows rows) := by
  refine ⟨fun c => ?_, TagCount.pairwise_notAfter_sort _⟩
  rw [countsOfRows, (TagCount.sort_perm _).count_eq, List.count_filterMap]
  refine List.countP_congr fun r _ => ?_
  rw [beq_iff_eq, decide_eq_true_eq, TagCount.ofRow?_eq_some_iff]

theorem Tells.of_perm (h : Tells rows l) (hp : rows'.Perm rows) : Tells rows' l :=
  ⟨fun c => (h.count c).trans (hp.countP_eq _).symm, h.ordered⟩

/-- **Rows tell one list only.** -/
theorem Tells.unique (h : Tells rows l) (h' : Tells rows l') : l = l' := by
  have hp : l.Perm l' := List.perm_iff_count.mpr fun c => (h.count c).trans (h'.count c).symm
  exact hp.eq_of_pairwise' h.ordered h'.ordered

theorem length_countsOfRows (rows : List (String × String)) :
    (countsOfRows rows).length = rows.countP fun r => (TagCount.ofRow? r.1 r.2).isSome := by
  rw [countsOfRows, (TagCount.sort_perm _).length_eq, List.length_filterMap_eq_countP]

/-! ## Reading -/

theorem run_read : read.run = .act .readAll fun r => .done (r.map countsOfRows) :=
  congrArg (Procedure.act Action.readAll) (funext fun r => by cases r <;> rfl)

variable {w : CacheWorld}

/-- No read of the rows is about to fail. -/
def Reads (w : CacheWorld) : Prop := ∀ f ∈ w.faults, f.1 ≠ .readAll

theorem Reads.perform_read (hw : Reads w) :
    (perform read w).1 = .ok (countsOfRows (w.store.getAll w.now tagsKey).1) := by
  have hrows : (Action.perform .readAll w).1 = .ok (w.store.getAll w.now tagsKey).1 := by
    rw [Action.perform, calling_of_forall_ne hw]
  rw [perform, run_read]
  change Except.map countsOfRows (Action.perform .readAll w).1 = _
  rw [hrows]
  rfl

/-- **Reading the cache gives the one list that the rows tell**, in whatever order they are
enumerated. The order of the list is total. -/
theorem read_tells (hw : Reads w) (hp : rows.Perm (w.store.getAll w.now tagsKey).1) :
    (perform read w).1 = .ok (countsOfRows rows) ∧
      (∀ l, Tells rows l ↔ l = countsOfRows rows) ∧
      (countsOfRows rows).length = rows.countP (fun r => (TagCount.ofRow? r.1 r.2).isSome) ∧
      (∀ r ∈ rows, ∀ c, TagCount.ofRow? r.1 r.2 = some c ↔ c.IsRow r.1 r.2) ∧
      IsLinearOrder TagCount TagCount.NotAfter := by
  have htells := tells_countsOfRows rows
  have hread : countsOfRows (w.store.getAll w.now tagsKey).1 = countsOfRows rows :=
    ((tells_countsOfRows _).of_perm hp).unique htells
  refine ⟨hread ▸ hw.perform_read, fun l => ⟨fun h => h.unique htells, ?_⟩,
    length_countsOfRows rows, fun r _ c => TagCount.ofRow?_eq_some_iff, inferInstance⟩
  rintro rfl
  exact htells

/-- Rows that say the same tag, one that says a type in capitals, and rows that say nothing. -/
def motley : List (String × String) :=
  [("manual tax 2024", "3"), ("auto pdf", "2"), ("AUTO\tpdf", "2"), ("Auto pdf", "+2"),
    ("source a", "3"), ("auto", "7"), ("auto old", "0"), ("auto neg", "-4")]

theorem read_tells_motley :
    let w : CacheWorld := { store := ⟨[(tagsKey, ⟨motley, none⟩)]⟩ }
    Reads w ∧ motley.reverse.Perm (w.store.getAll w.now tagsKey).1 ∧
      (perform read w).1 = .ok [⟨"a", .source, 3⟩, ⟨"tax 2024", .manual, 3⟩, ⟨"pdf", .auto, 2⟩,
        ⟨"pdf", .auto, 2⟩] := by
  have hw : Reads { store := ⟨[(tagsKey, ⟨motley, none⟩)]⟩ } := fun _ hf => nomatch hf
  have hp : motley.reverse.Perm motley := List.reverse_perm motley
  refine ⟨hw, hp, (read_tells hw hp).1.trans ?_⟩
  cbv

end DocSearch.Cache
