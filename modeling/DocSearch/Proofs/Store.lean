import Mathlib
import DocSearch.Proofs.Assoc
import DocSearch.Store
/-!
# The hash of a key after an operation on the store

* `hash?_put`, `hash?_delete`: the view of a store after a change.
* `purge_purge`, `purge_purge_of_le`: a second look at the clock drops nothing more, and a later one
  drops what an earlier one did; `hash?_purge_of_eq_none`.
* `Adjusts`, **`adjusts_adjust`**: the ways in which a counter is adjusted.
* `delete_setAll`, `delete_adjust`: what is written under a key leaves all other keys to the clock.
* `Lasting`: nothing under a key has a deadline; then `hash?_purge`, the hash outlives every look at
  the clock. All operations that set no deadline keep this.
-/

namespace DocSearch.Store

variable {s : Store} {key : String} {h : Hash}

@[simp] theorem hash?_put (s : Store) (key k : String) (h : Hash) :
    (s.put key h).hash? k = if k == key then some h else s.hash? k :=
  Assoc.lookup_set key k h s.hashes

@[simp] theorem hash?_delete (s : Store) (key k : String) :
    (s.delete key).hash? k = if k == key then none else s.hash? k :=
  Assoc.lookup_erase key k s.hashes

theorem purge_purge (s : Store) (now : Nat) : (s.purge now).purge now = s.purge now := by
  simp only [purge, List.filter_filter, Bool.and_self]

theorem purge_purge_of_le {t u : Nat} (h : t ≤ u) (s : Store) : (s.purge t).purge u = s.purge u := by
  rw [purge, purge, purge, List.filter_filter]
  refine congrArg Store.mk (List.filter_congr fun p _ => ?_)
  rw [expired, expired]
  cases p.2.deadline with
  | none => rfl
  | some d =>
    rw [Bool.eq_iff_iff]
    simp only [Bool.and_eq_true, Bool.not_eq_true', decide_eq_false_iff_not]
    omega

/-- A hash that is gone does not come back with the clock. -/
theorem hash?_purge_of_eq_none (hs : s.hash? key = none) (t : Nat) :
    (s.purge t).hash? key = none := by
  unfold hash? at hs ⊢
  rw [List.lookup_eq_none_iff] at hs ⊢
  exact fun p hp => hs p (List.mem_of_mem_filter hp)

/-! ## The ways in which a counter is adjusted -/

/-- The ways in which a counter is adjusted: there is no hash, the field holds no integer, the sum is
positive, or it is not and the field goes, and the hash with it if nothing is left. -/
inductive Adjusts (now : Nat) (s : Store) (key field : String) (delta : Int) :
    Except ProviderError (Option Int) × Store → Prop
  | absent (hk : (s.purge now).hash? key = none) :
      Adjusts now s key field delta (.ok none, s.purge now)
  | unread {h : Hash} {e : ProviderError} (hk : (s.purge now).hash? key = some h)
      (hc : counter h.fields field = .error e) :
      Adjusts now s key field delta (.error e, s.purge now)
  | raised {h : Hash} {n : Int} (hk : (s.purge now).hash? key = some h)
      (hc : counter h.fields field = .ok n) (hpos : 0 < n + delta) :
      Adjusts now s key field delta (.ok (some (n + delta)), (s.purge now).put key
        { h with fields := Assoc.set field (toString (n + delta)) h.fields })
  | removed {h : Hash} {n : Int} (hk : (s.purge now).hash? key = some h)
      (hc : counter h.fields field = .ok n) (hpos : n + delta ≤ 0)
      (hne : Assoc.erase field h.fields ≠ []) :
      Adjusts now s key field delta (.ok (some (n + delta)), (s.purge now).put key
        { h with fields := Assoc.erase field h.fields })
  | emptied {h : Hash} {n : Int} (hk : (s.purge now).hash? key = some h)
      (hc : counter h.fields field = .ok n) (hpos : n + delta ≤ 0)
      (hnil : Assoc.erase field h.fields = []) :
      Adjusts now s key field delta (.ok (some (n + delta)), (s.purge now).delete key)

theorem adjusts_adjust (now : Nat) (s : Store) (key field : String) (delta : Int) :
    Adjusts now s key field delta (s.adjust now key field delta) := by
  unfold adjust
  dsimp only
  cases hk : (s.purge now).hash? key with
  | none => exact .absent hk
  | some h =>
    dsimp only
    cases hc : counter h.fields field with
    | error e => exact .unread hk hc
    | ok n =>
      dsimp only
      split_ifs with hpos hnil
      · exact .raised hk hc hpos
      · exact .emptied hk hc (by omega) (List.isEmpty_iff.mp hnil)
      · exact .removed hk hc (by omega) (fun e => hnil (List.isEmpty_iff.mpr e))

/-! ## What stands under other keys -/

theorem delete_put (s : Store) (key : String) (h : Hash) : (s.put key h).delete key = s.delete key :=
  congrArg Store.mk (Assoc.erase_set key h s.hashes)

theorem delete_delete (s : Store) (key : String) : (s.delete key).delete key = s.delete key := by
  simp only [delete, Assoc.erase, List.filter_filter, Bool.and_self]

theorem delete_purge (s : Store) (key : String) (now : Nat) :
    (s.purge now).delete key = (s.delete key).purge now := by
  simp only [delete, purge, Assoc.erase, List.filter_filter, Bool.and_comm]

theorem delete_setAll (s : Store) (now : Nat) (key : String) (entries : List (String × String))
    (ttl : Option Nat) :
    ((s.setAll now key entries ttl).delete key).purge now = (s.delete key).purge now := by
  unfold setAll
  split_ifs
  · rfl
  · rw [delete_put, delete_purge, purge_purge]

theorem delete_adjust (s : Store) (now : Nat) (key field : String) (delta : Int) :
    (s.adjust now key field delta).2.delete key = (s.delete key).purge now := by
  rw [← delete_purge]
  have ha := adjusts_adjust now s key field delta
  generalize s.adjust now key field delta = out at ha ⊢
  cases ha with
  | absent | unread => rfl
  | raised | removed => exact delete_put _ _ _
  | emptied => exact delete_delete _ _

/-! ## Hashes without a deadline -/

/-- Nothing under the key has a deadline. -/
def Lasting (s : Store) (key : String) : Prop := ∀ p ∈ s.hashes, p.1 = key → p.2.deadline = none

theorem lasting_of_hash?_eq_none (h : s.hash? key = none) : s.Lasting key := fun p hp e =>
  absurd (List.lookup_eq_none_iff.mp h p hp) (by simp [e])

theorem Lasting.deadline (hs : s.Lasting key) (hk : s.hash? key = some h) : h.deadline = none :=
  hs _ (Assoc.mem_of_lookup hk) rfl

theorem Lasting.purge (hs : s.Lasting key) (now : Nat) : (s.purge now).Lasting key := fun p hp =>
  hs p (List.mem_filter.mp hp).1

theorem Lasting.put (hs : s.Lasting key) (hd : h.deadline = none) : (s.put key h).Lasting key := by
  intro p hp e
  rcases Assoc.mem_set hp with rfl | hp
  · exact hd
  · exact hs p hp e

/-- **A hash without a deadline outlives every look at the clock.** -/
theorem hash?_purge (hs : s.Lasting key) (now : Nat) : (s.purge now).hash? key = s.hash? key :=
  Assoc.lookup_filter fun p hp e => by simp [expired, hs p hp e]

end DocSearch.Store
