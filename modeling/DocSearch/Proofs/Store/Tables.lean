import Mathlib
import DocSearch.Proofs.Store.Operations
/-!
# The store as two tables

`Tables` keeps the fields of the hashes and their deadlines apart, so that nothing but the operations
holds the two together. `Store.tables` takes a store apart.

* `tables_purge`, `tables_put`, `tables_delete`: what each change of a store is on its tables.
* **`tables_answer`**: on the tables of a tidy store every operation answers as it does on the store, and
  leaves the tables of what the store becomes.
* `Tables.Aligned`: a deadline stands only with a hash, and no hash is empty. `Tidy.aligned`.
-/

namespace DocSearch.Store

/-- The fields of the hashes by key, and apart from them the deadlines by key. -/
@[ext]
structure Tables where
  values : String → Option (List (String × String)) := fun _ => none
  deadlines : String → Option Nat := fun _ => none

namespace Tables

/-- The key has a deadline, and it has come. -/
def due (now : Nat) (t : Tables) (key : String) : Bool := (t.deadlines key).any (· ≤ now)

/-- Removes the keys that are due from both tables. -/
def purge (now : Nat) (t : Tables) : Tables where
  values key := if t.due now key then none else t.values key
  deadlines key := if t.due now key then none else t.deadlines key

@[simp] theorem purge_values (now : Nat) (t : Tables) (key : String) :
    (t.purge now).values key = if t.due now key then none else t.values key := rfl

@[simp] theorem purge_deadlines (now : Nat) (t : Tables) (key : String) :
    (t.purge now).deadlines key = if t.due now key then none else t.deadlines key := rfl

/-- Removes a key from both tables. -/
def remove (t : Tables) (key : String) : Tables :=
  ⟨Function.update t.values key none, Function.update t.deadlines key none⟩

/-- Gives a key its fields. -/
def write (t : Tables) (key : String) (fields : List (String × String)) : Tables :=
  { t with values := Function.update t.values key (some fields) }

/-- Gives a key a deadline. -/
def limit (t : Tables) (key : String) (deadline : Nat) : Tables :=
  { t with deadlines := Function.update t.deadlines key (some deadline) }

/-- Removes a key that has lost its last field. -/
def dropIfEmpty (t : Tables) (key : String) : Tables :=
  if (t.values key).any (·.isEmpty) then t.remove key else t

theorem dropIfEmpty_write (t : Tables) (key : String) (fields : List (String × String)) :
    (t.write key fields).dropIfEmpty key =
      if fields.isEmpty then t.remove key else t.write key fields := by
  have hv : (t.write key fields).values key = some fields := Function.update_self ..
  rw [dropIfEmpty, hv, Option.any_some]
  split_ifs
  · rw [remove, write, Function.update_idem, remove]
  · rfl

/-- Adds to the counter in a field, if the key is there. -/
def adjust (now : Nat) (t : Tables) (key field : String) (delta : Int) :
    Except ProviderError (Option Int) × Tables :=
  let t := t.purge now
  match t.values key with
  | none => (.ok none, t)
  | some fields =>
    match counter fields field with
    | .error e => (.error e, t)
    | .ok n =>
      let updated := n + delta
      (.ok (some updated),
        if updated ≤ 0 then (t.write key (Assoc.erase field fields)).dropIfEmpty key
        else t.write key (Assoc.set field (toString updated) fields))

/-- Carries out an operation on a key. -/
def answer (now : Nat) (t : Tables) (key : String) : Operation → Reply × Tables
  | .contains =>
    let t := t.purge now
    (.present (t.values key).isSome, t)
  | .get field =>
    let t := t.purge now
    (.value ((t.values key).bind (·.lookup field)), t)
  | .getAll =>
    let t := t.purge now
    (.fields ((t.values key).getD []), t)
  | .set field value =>
    let t := t.purge now
    (.done, t.write key (Assoc.set field value ((t.values key).getD [])))
  | .setAll entries ttl =>
    if entries.isEmpty then (.done, t)
    else
      let t := t.purge now
      let t := t.write key (Assoc.setAll entries ((t.values key).getD []))
      (.done,
        match ttl with
        | some ttl => t.limit key (now + ttl)
        | none => t)
  | .delete => (.done, t.remove key)
  | .adjust field delta => (t.adjust now key field delta).map .count id

/-- A deadline stands only with a hash, and no hash is empty. -/
structure Aligned (t : Tables) : Prop where
  present : ∀ key d, t.deadlines key = some d → ∃ fields, t.values key = some fields
  ne_nil : ∀ key fields, t.values key = some fields → fields ≠ []

end Tables

/-- The tables of a store. -/
def tables (s : Store) : Tables where
  values key := (s.hash? key).map (·.fields)
  deadlines key := (s.hash? key).bind (·.deadline)

variable {s : Store} {key : String} {h : Hash}

@[simp] theorem tables_values (s : Store) (key : String) :
    s.tables.values key = (s.hash? key).map (·.fields) := rfl

@[simp] theorem tables_deadlines (s : Store) (key : String) :
    s.tables.deadlines key = (s.hash? key).bind (·.deadline) := rfl

theorem Tidy.aligned (hs : s.Tidy) : s.tables.Aligned where
  present key d hd := by
    obtain ⟨h, hk, -⟩ := Option.bind_eq_some_iff.mp hd
    exact ⟨h.fields, by rw [tables_values, hk, Option.map_some]⟩
  ne_nil key fields hf := by
    obtain ⟨h, hk, rfl⟩ := Option.map_eq_some_iff.mp hf
    exact hs.fields_ne_nil hk

/-! ## A change of the store on its tables -/

theorem due_tables (s : Store) (now : Nat) (key : String) :
    s.tables.due now key = (s.hash? key).any (expired now) := by
  rw [Tables.due, tables_deadlines]
  cases s.hash? key with
  | none => rfl
  | some h => cases hd : h.deadline <;> simp [expired, hd]

theorem Tidy.bind_hash?_purge {β : Type} (hs : s.Tidy) (now : Nat) (key : String)
    (f : Hash → Option β) :
    ((s.purge now).hash? key).bind f =
      if s.tables.due now key then none else (s.hash? key).bind f := by
  rw [hs.hash?_purge, due_tables]
  cases s.hash? key with
  | none => rfl
  | some h => cases he : expired now h <;> simp [Option.filter, he]

theorem tables_purge (hs : s.Tidy) (now : Nat) : (s.purge now).tables = s.tables.purge now := by
  ext1 <;> funext key
  · rw [tables_values, Tables.purge_values, tables_values, Option.map_eq_bind, Option.map_eq_bind,
      hs.bind_hash?_purge]
  · rw [tables_deadlines, Tables.purge_deadlines, tables_deadlines, hs.bind_hash?_purge]

theorem tables_delete (s : Store) (key : String) : (s.delete key).tables = s.tables.remove key := by
  ext1 <;> funext k <;> by_cases hk : k = key <;> simp [Tables.remove, hk]

theorem tables_put (s : Store) (key : String) (h : Hash) :
    (s.put key h).tables = ⟨Function.update s.tables.values key (some h.fields),
      Function.update s.tables.deadlines key h.deadline⟩ := by
  ext1 <;> funext k <;> by_cases hk : k = key <;> simp [hk]

/-- A hash that keeps its deadline is written to the first table only. -/
theorem tables_put_of_deadline (hd : h.deadline = (s.hash? key).bind (·.deadline)) :
    (s.put key h).tables = s.tables.write key h.fields := by
  rw [tables_put, hd, ← tables_deadlines, Function.update_eq_self]
  rfl

/-! ## An operation on the tables -/

theorem tables_adjust (hs : s.Tidy) (now : Nat) (key field : String) (delta : Int) :
    s.tables.adjust now key field delta =
      ((s.adjust now key field delta).1, (s.adjust now key field delta).2.tables) := by
  have ha := adjusts_adjust now s key field delta
  generalize s.adjust now key field delta = out at ha ⊢
  have hp := tables_purge hs now
  cases ha with
  | absent hk => simp only [Tables.adjust, ← hp, tables_values, hk, Option.map_none]
  | unread hk hc => simp only [Tables.adjust, ← hp, tables_values, hk, Option.map_some, hc]
  | raised hk hc hpos =>
    simp only [Tables.adjust, ← hp, tables_values, hk, Option.map_some, hc]
    rw [if_neg (not_le.mpr hpos), tables_put_of_deadline (by rw [hk, Option.bind_some])]
  | removed hk hc hpos hne =>
    simp only [Tables.adjust, ← hp, tables_values, hk, Option.map_some, hc]
    rw [if_pos hpos, Tables.dropIfEmpty_write, if_neg (by rwa [List.isEmpty_iff]),
      tables_put_of_deadline (by rw [hk, Option.bind_some])]
  | emptied hk hc hpos hnil =>
    simp only [Tables.adjust, ← hp, tables_values, hk, Option.map_some, hc]
    rw [if_pos hpos, Tables.dropIfEmpty_write, if_pos (by rwa [List.isEmpty_iff]), tables_delete]

theorem tables_setAll (hs : s.Tidy) (now : Nat) (key : String) (entries : List (String × String))
    (ttl : Option Nat) :
    s.tables.answer now key (.setAll entries ttl) =
      (.done, (s.setAll now key entries ttl).tables) := by
  simp only [Tables.answer, setAll, ← tables_purge hs now, tables_values]
  split_ifs with he
  · rfl
  · cases ttl with
    | none =>
      rw [tables_put_of_deadline, fields_getD]
      exact deadline_getD _
    | some ttl =>
      rw [tables_put, fields_getD]
      rfl

/-- **The two tables of a tidy store behave as the store does.** -/
theorem tables_answer (hs : s.Tidy) (now : Nat) (key : String) (op : Operation) :
    s.tables.answer now key op = ((s.answer now key op).1, (s.answer now key op).2.tables) := by
  have hp := tables_purge hs now
  cases op with
  | contains => simp [Tables.answer, answer, contains, ← hp]
  | get field =>
    simp only [Tables.answer, answer, get, fieldsOf, ← hp, tables_values]
    cases (s.purge now).hash? key <;> rfl
  | getAll => simp only [Tables.answer, answer, getAll, fieldsOf, ← hp, tables_values]; rfl
  | set field value =>
    simp only [Tables.answer, answer, set, ← hp, tables_values]
    rw [tables_put_of_deadline, fields_getD]
    exact deadline_getD _
  | setAll entries ttl => exact tables_setAll hs now key entries ttl
  | delete => simp only [Tables.answer, answer, tables_delete]
  | adjust field delta => simp only [Tables.answer, answer, tables_adjust hs]; rfl

end DocSearch.Store
