import Mathlib
import DocSearch.Json.Reader
import DocSearch.Proofs.Json.Fields
import DocSearch.Proofs.Json.Reread
/-!
# Records read back

* `word_reread`, `list_reread`, `table_reread`: words, lists and tables are read from what was written
  of them.
* `record?_reread`, `required_reread`, `defaulted_reread`: a record is read from the object that was
  written of it.
* `Yields`: what holds of all that a reader reads.
-/

namespace DocSearch

namespace Reader

variable {α β : Type} {room : Nat}

/-! ## Parts -/

theorem word_reread {n : Nat} (h : n < Text.wordBound) (room : Nat) :
    word ((Json.nat n).reread room) = some n := by
  rw [Json.nat, Json.reread, Json.numberForm_word h, word, if_pos ⟨Int.natCast_nonneg n, by omega⟩,
    Int.toNat_natCast]

theorem list_reread {read : Reader α} {write : β → Json} {seen : β → α} {xs : List β}
    (h : ∀ x ∈ xs, read ((write x).reread room) = some (seen x)) :
    list read ((Json.arr (xs.map write)).reread (room + 1)) = some (xs.map seen) := by
  have hitems : (Json.rereadItems room (xs.map write)).mapM read = some (xs.map seen) := by
    induction xs with
    | nil => rfl
    | cons x xs ih =>
      obtain ⟨hx, hxs⟩ := List.forall_mem_cons.mp h
      rw [List.map_cons, Json.rereadItems, List.mapM_cons, hx, ih hxs]
      rfl
  rw [Json.reread, Form.within, if_neg (Nat.succ_ne_zero room), list]
  exact hitems

theorem texts_reread (items : List String) (room : Nat) :
    list text ((Json.texts items).reread (room + 1)) = some items := by
  have hlist : list text ((Json.arr (items.map .str)).reread (room + 1)) = some (items.map id) :=
    list_reread fun _ _ => rfl
  rwa [List.map_id] at hlist

theorem table_reread {fields : List (String × Json)} (ho : Ordered fields)
    (h : ∀ f ∈ fields, value (f.2.reread room) = some f.2) :
    table value ((Json.obj fields).reread (room + 1)) = some fields := by
  have hfields : ((Json.rereadFields room fields).mapM fun f =>
      (value f.2).map fun a => (f.1, a)) = some fields := by
    clear ho
    induction fields with
    | nil => rfl
    | cons f fields ih =>
      obtain ⟨hf, hfields⟩ := List.forall_mem_cons.mp h
      rw [Json.rereadFields, List.mapM_cons, hf, ih hfields]
      rfl
  rw [Json.reread, Form.within, if_neg (Nat.succ_ne_zero room), table]
  change Option.map orderFields (List.mapM _ (Json.rereadFields room fields)) = _
  rw [hfields, Option.map_some, ho.orderFields_eq]

end Reader

/-! ## Records -/

section Record

variable {α : Type} {room : Nat} {fields : List (String × Json)}

theorem lookup_reread (name : String) :
    (Json.rereadFields room fields).lookup name = (fields.lookup name).map (·.reread room) := by
  rw [Json.rereadFields_eq_map, Assoc.lookup_map]

theorem knownOnce_reread (names : List String) :
    knownOnce names (Json.rereadFields room fields) = knownOnce names fields := by
  unfold knownOnce
  rw [Json.rereadFields_eq_map]
  simp only [List.filter_map, List.length_map]
  rfl

/-- **An object with each known name once is read as a record of its fields.** -/
theorem record?_reread {names : List String} (h : knownOnce names fields = true) :
    ((Json.obj fields).reread (room + 1)).record? names =
      some ⟨Json.rereadFields room fields, false⟩ := by
  rw [Json.reread, Form.within, if_neg (Nat.succ_ne_zero room), Form.record?]
  exact if_pos ((knownOnce_reread names).trans h)

theorem required_reread {name : String} {x : Json} (h : fields.lookup name = some x)
    (positional : Bool) (read : Reader α) :
    Record.required ⟨Json.rereadFields room fields, positional⟩ name read =
      read (x.reread room) := by
  rw [Record.required, Record.find, lookup_reread, h]
  rfl

theorem defaulted_reread {name : String} {x : Json} (h : fields.lookup name = some x)
    (positional : Bool) (default : α) (read : Reader α) :
    Record.defaulted ⟨Json.rereadFields room fields, positional⟩ name default read =
      read (x.reread room) := by
  rw [Record.defaulted, Record.find, lookup_reread, h]
  rfl

end Record

/-! ## What a reader reads -/

/-- All that is read satisfies `P`. -/
def Reader.Yields {α : Type} (P : α → Prop) (read : Reader α) : Prop :=
  ∀ f a, read f = some a → P a

section Yields

variable {α : Type} {P : α → Prop} {read : Reader α}

theorem yields_word : Reader.word.Yields (· < Text.wordBound) := by
  intro f n h
  unfold Reader.word at h
  split at h
  · split_ifs at h with hn
    cases h
    omega
  · cases h

theorem Reader.Yields.list (h : read.Yields P) : (Reader.list read).Yields fun l => ∀ a ∈ l, P a := by
  intro f l hl
  unfold Reader.list at hl
  split at hl
  · next items =>
    induction items generalizing l with
    | nil =>
      cases hl
      exact List.forall_mem_nil P
    | cons x items ih =>
      rw [List.mapM_cons] at hl
      obtain ⟨a, ha, hl⟩ := Option.bind_eq_some_iff.mp hl
      obtain ⟨as, has, hl⟩ := Option.bind_eq_some_iff.mp hl
      cases hl
      exact List.forall_mem_cons.mpr ⟨h x a ha, ih as has⟩
  · cases hl

theorem Reader.Yields.defaulted (h : read.Yields P) {r : Record} {name : String} {default a : α}
    (hd : P default) (ha : r.defaulted name default read = some a) : P a := by
  unfold Record.defaulted at ha
  split at ha
  · exact h _ a ha
  · cases ha
    exact hd

end Yields

end DocSearch
