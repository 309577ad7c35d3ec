import Mathlib
import DocSearch.Proofs.Store
/-!
# What an operation does to a store

* `Operation`, `answer`: the operations on the hash of a key, with what they answer and leave.
* `Tidy`: a key stands once and no hash is empty. Then the clock takes exactly the hashes whose deadline
  has come (`Tidy.hash?_purge`), with all its fields (`Tidy.fieldsOf_purge`).
* `Changes`, **`changes_answer`**: all that an operation can do to a store. All that follows is read off
  there: the store stays tidy (`Tidy.answer`), other keys change by expiry only
  (`Tidy.hash?_answer_of_ne`), and a deadline that is seen afterwards is the one given or was seen before
  (`Tidy.deadlineAt_answer`).
* `Adjusted`, **`adjusted_adjust`**: what can be relied on when a counter is adjusted.
-/

namespace DocSearch.Store

/-- An operation on the hash of a key. -/
inductive Operation where
  | contains
  | get (field : String)
  | getAll
  | set (field value : String)
  | setAll (entries : List (String × String)) (ttl : Option Nat)
  | delete
  | adjust (field : String) (delta : Int)
deriving DecidableEq, Repr

/-- What an operation answers. -/
inductive Reply where
  | done
  | present (b : Bool)
  | value (v : Option String)
  | fields (rows : List (String × String))
  | count (n : Except ProviderError (Option Int))

/-- Carries out an operation on the hash of a key. -/
def answer (now : Nat) (s : Store) (key : String) : Operation → Reply × Store
  | .contains => (s.contains now key).map .present id
  | .get field => (s.get now key field).map .value id
  | .getAll => (s.getAll now key).map .fields id
  | .set field value => (.done, s.set now key field value)
  | .setAll entries ttl => (.done, s.setAll now key entries ttl)
  | .delete => (.done, s.delete key)
  | .adjust field delta => (s.adjust now key field delta).map .count id

/-- The deadline that an operation gives to a hash. -/
def Operation.deadline? (now : Nat) : Operation → Option Nat
  | .setAll (_ :: _) (some ttl) => some (now + ttl)
  | _ => none

variable {s : Store} {now : Nat} {key k field : String} {delta : Int} {h : Hash} {op : Operation}

/-! ## The hash that is written to -/

theorem fieldsOf_of_hash? (hk : s.hash? key = some h) : s.fieldsOf key = h.fields := by
  rw [fieldsOf, hk, Option.map_some, Option.getD_some]

@[simp] theorem fieldsOf_put (s : Store) (key : String) (h : Hash) :
    (s.put key h).fieldsOf key = h.fields :=
  fieldsOf_of_hash? (by simp)

@[simp] theorem fieldsOf_delete (s : Store) (key : String) : (s.delete key).fieldsOf key = [] := by
  simp [fieldsOf]

theorem fields_getD (o : Option Hash) :
    (o.getD ⟨[], none⟩).fields = (o.map (·.fields)).getD [] := by cases o <;> rfl

theorem deadline_getD (o : Option Hash) :
    (o.getD ⟨[], none⟩).deadline = o.bind (·.deadline) := by cases o <;> rfl

theorem fieldsOf_setAll (s : Store) (now : Nat) (key : String) {entries : List (String × String)}
    (he : entries ≠ []) (ttl : Option Nat) :
    (s.setAll now key entries ttl).fieldsOf key =
      Assoc.setAll entries ((s.purge now).fieldsOf key) := by
  rw [setAll, if_neg (by simpa using he), fieldsOf_put, fields_getD, fieldsOf]

/-! ## Adjusting a counter -/

/-- What can be relied on when the counter in a field is adjusted. -/
structure Adjusted (now : Nat) (before : Store) (key field : String) (delta : Int)
    (r : Except ProviderError (Option Int)) (after : Store) : Prop where
  /-- There is no count exactly when there is no hash. -/
  absent_iff : r = .ok none ↔ (before.purge now).hash? key = none
  /-- It fails exactly when the field holds a text that is no integer. -/
  error_iff : ∀ e, r = .error e ↔
    ∃ value, ((before.purge now).fieldsOf key).lookup field = some value ∧
      Text.integer? value = none ∧ e = .other ("hash value is not an integer: " ++ value)
  /-- Where nothing is counted, only the expired hashes go. -/
  kept : (∀ n, r ≠ .ok (some n)) → after = before.purge now
  /-- What is counted is the sum. It is left in the field if it is positive, else the field goes. -/
  counted : ∀ n, r = .ok (some n) →
    (∃ old, counter ((before.purge now).fieldsOf key) field = .ok old ∧ n = old + delta) ∧
      (after.fieldsOf key).lookup field = if 0 < n then some (toString n) else none
  /-- The other fields of the hash stay. -/
  others : ∀ f ≠ field,
    (after.fieldsOf key).lookup f = ((before.purge now).fieldsOf key).lookup f

theorem counter_eq_error_iff {fields : List (String × String)} {e : ProviderError} :
    counter fields field = .error e ↔
      ∃ value, fields.lookup field = some value ∧ Text.integer? value = none ∧
        e = .other ("hash value is not an integer: " ++ value) := by
  unfold counter
  cases fields.lookup field with
  | none => simp
  | some value => cases hv : Text.integer? value <;> simp [hv, eq_comm]

/-- An adjustment that counts leaves the old fields less the one adjusted, which is set anew only to a
positive sum. -/
theorem Adjusted.of_counter {after : Store} {n : Int} (hk : (s.purge now).hash? key = some h)
    (hc : counter h.fields field = .ok n)
    (hf : ∀ f, (after.fieldsOf key).lookup f =
      if f == field then (if 0 < n + delta then some (toString (n + delta)) else none)
      else h.fields.lookup f) :
    Adjusted now s key field delta (.ok (some (n + delta))) after where
  absent_iff := by simp [hk]
  error_iff e := by
    rw [fieldsOf_of_hash? hk, ← counter_eq_error_iff, hc]
    simp
  kept hn := absurd rfl (hn _)
  counted m hm := by
    obtain rfl : n + delta = m := by simpa using hm
    refine ⟨⟨n, by rw [fieldsOf_of_hash? hk, hc], rfl⟩, ?_⟩
    rw [hf, if_pos BEq.rfl]
  others f hne := by rw [hf, if_neg (by simpa using hne), fieldsOf_of_hash? hk]

theorem adjusted_adjust (now : Nat) (s : Store) (key field : String) (delta : Int) :
    Adjusted now s key field delta (s.adjust now key field delta).1
      (s.adjust now key field delta).2 := by
  have ha := adjusts_adjust now s key field delta
  generalize s.adjust now key field delta = out at ha ⊢
  cases ha with
  | absent hk =>
    have hf : (s.purge now).fieldsOf key = [] := by simp [fieldsOf, hk]
    exact ⟨by simp [hk], by simp [hf], fun _ => rfl, by simp, fun _ _ => rfl⟩
  | unread hk hc =>
    refine ⟨by simp [hk], fun e => ?_, fun _ => rfl, by simp, fun _ _ => rfl⟩
    rw [fieldsOf_of_hash? hk, ← counter_eq_error_iff, hc, Except.error.injEq, Except.error.injEq]
  | raised hk hc hpos =>
    refine .of_counter hk hc fun f => ?_
    rw [fieldsOf_put, Assoc.lookup_set, if_pos hpos]
  | removed hk hc hpos =>
    refine .of_counter hk hc fun f => ?_
    rw [fieldsOf_put, Assoc.lookup_erase, if_neg (not_lt.mpr hpos)]
  | emptied hk hc hpos hnil =>
    refine .of_counter hk hc fun f => ?_
    rw [fieldsOf_delete, if_neg (not_lt.mpr hpos), ← Assoc.lookup_erase, hnil]

/-! ## All that an operation can do -/

/-- All that an operation on a key can do to a store: nothing, a look at the clock and after it another
hash of the key or none, or the removal of the key without a look at the clock. A hash that is written
has fields, and its deadline is the one given or else the one it had. -/
inductive Changes (now : Nat) (key : String) (op : Operation) (s : Store) : Store → Prop
  | idle : Changes now key op s s
  | looked : Changes now key op s (s.purge now)
  | written (h : Hash) (hne : h.fields ≠ [])
      (hd : h.deadline = (op.deadline? now).or (((s.purge now).hash? key).bind (·.deadline))) :
      Changes now key op s ((s.purge now).put key h)
  | emptied : Changes now key op s ((s.purge now).delete key)
  | deleted : Changes now key op s (s.delete key)

theorem changes_adjust (now : Nat) (s : Store) (key field : String) (delta : Int) :
    Changes now key (.adjust field delta) s (s.adjust now key field delta).2 := by
  have ha := adjusts_adjust now s key field delta
  generalize s.adjust now key field delta = out at ha ⊢
  cases ha with
  | absent | unread => exact .looked
  | raised hk => exact .written _ (Assoc.set_ne_nil _ _ _) (by simp [hk, Operation.deadline?])
  | removed hk hc hpos hne => exact .written _ hne (by simp [hk, Operation.deadline?])
  | emptied => exact .emptied

theorem changes_setAll (now : Nat) (s : Store) (key : String) (entries : List (String × String))
    (ttl : Option Nat) :
    Changes now key (.setAll entries ttl) s (s.setAll now key entries ttl) := by
  cases entries with
  | nil => exact .idle
  | cons e entries =>
    refine .written _ (Assoc.setAll_ne_nil (List.cons_ne_nil e entries) _) ?_
    rw [← deadline_getD]
    cases ttl <;> rfl

/-- **An operation changes nothing but the hash of its key and what has expired.** -/
theorem changes_answer (now : Nat) (s : Store) (key : String) (op : Operation) :
    Changes now key op s (s.answer now key op).2 := by
  cases op with
  | contains | get | getAll => exact .looked
  | set field value => exact .written _ (Assoc.set_ne_nil _ _ _) (deadline_getD _)
  | setAll entries ttl => exact changes_setAll now s key entries ttl
  | delete => exact .deleted
  | adjust field delta => exact changes_adjust now s key field delta

/-! ## Tidy stores -/

/-- A key stands once, and no hash is empty. -/
structure Tidy (s : Store) : Prop where
  nodup : (s.hashes.map Prod.fst).Nodup
  ne_nil : ∀ p ∈ s.hashes, p.2.fields ≠ []

theorem tidy_empty : Tidy {} := ⟨List.nodup_nil, List.forall_mem_nil _⟩

theorem Tidy.fields_ne_nil (hs : s.Tidy) (hk : s.hash? key = some h) : h.fields ≠ [] :=
  hs.ne_nil _ (Assoc.mem_of_lookup hk)

theorem Tidy.purge (hs : s.Tidy) (now : Nat) : (s.purge now).Tidy :=
  ⟨(List.filter_sublist.map Prod.fst).nodup hs.nodup,
    fun p hp => hs.ne_nil p (List.mem_of_mem_filter hp)⟩

theorem Tidy.put (hs : s.Tidy) (hne : h.fields ≠ []) : (s.put key h).Tidy := by
  refine ⟨Assoc.nodup_keys_set hs.nodup, fun p hp => ?_⟩
  rcases Assoc.mem_set hp with rfl | hp
  · exact hne
  · exact hs.ne_nil p hp

theorem Tidy.delete (hs : s.Tidy) (key : String) : (s.delete key).Tidy :=
  ⟨Assoc.nodup_keys_erase hs.nodup, fun p hp => hs.ne_nil p (List.mem_of_mem_filter hp)⟩

theorem Tidy.answer (hs : s.Tidy) (now : Nat) (key : String) (op : Operation) :
    (s.answer now key op).2.Tidy := by
  have hc := changes_answer now s key op
  generalize (s.answer now key op).2 = after at hc ⊢
  cases hc with
  | idle => exact hs
  | looked => exact hs.purge now
  | written h hne => exact (hs.purge now).put hne
  | emptied => exact (hs.purge now).delete key
  | deleted => exact hs.delete key

/-- **In a tidy store the clock takes the hash of a key exactly when its deadline has come.** -/
theorem Tidy.hash?_purge (hs : s.Tidy) (now : Nat) (key : String) :
    (s.purge now).hash? key = (s.hash? key).filter fun h => !expired now h := by
  ext h
  rw [Option.filter_eq_some_iff, hash?, hash?, ← Assoc.mem_iff_lookup (hs.purge now).nodup,
    ← Assoc.mem_iff_lookup hs.nodup]
  exact List.mem_filter

theorem Tidy.fieldsOf_purge (hs : s.Tidy) (hthere : (s.contains now key).1 = true) :
    (s.purge now).fieldsOf key = s.fieldsOf key := by
  obtain ⟨h, hk⟩ := Option.isSome_iff_exists.mp hthere
  rw [fieldsOf_of_hash? hk]
  rw [hs.hash?_purge, Option.filter_eq_some_iff] at hk
  rw [fieldsOf_of_hash? hk.1]

theorem Tidy.contains_iff (hs : s.Tidy) (now : Nat) (key : String) :
    (s.contains now key).1 = true ↔ (s.getAll now key).1 ≠ [] := by
  simp only [contains, getAll, fieldsOf]
  cases hk : (s.purge now).hash? key with
  | none => simp
  | some h => simpa using (hs.purge now).fields_ne_nil hk

/-- **An operation leaves every other key as it is, or takes its hash because that has expired.** -/
theorem Tidy.hash?_answer_of_ne (hs : s.Tidy) (now : Nat) (op : Operation) (hk : k ≠ key) :
    (s.answer now key op).2.hash? k = s.hash? k ∨
      (s.answer now key op).2.hash? k = none ∧ ∃ h, s.hash? k = some h ∧ expired now h = true := by
  have hpurge : (s.purge now).hash? k = s.hash? k ∨
      (s.purge now).hash? k = none ∧ ∃ h, s.hash? k = some h ∧ expired now h = true := by
    rw [hs.hash?_purge]
    cases s.hash? k with
    | none => exact .inl rfl
    | some h => cases he : expired now h <;> simp [he]
  have hc := changes_answer now s key op
  generalize (s.answer now key op).2 = after at hc ⊢
  cases hc with
  | idle => exact .inl rfl
  | looked => exact hpurge
  | written => simpa [hk] using hpurge
  | emptied => simpa [hk] using hpurge
  | deleted => simp [hk]

/-! ## The deadlines that are seen -/

/-- The deadline of a key, as seen at a time. -/
def deadlineAt (now : Nat) (s : Store) (key : String) : Option Nat :=
  ((s.purge now).hash? key).bind (·.deadline)

variable {t d : Nat}

theorem Tidy.deadlineAt_eq_some_iff (hs : s.Tidy) :
    s.deadlineAt now key = some d ↔ ∃ h, s.hash? key = some h ∧ h.deadline = some d ∧ now < d := by
  rw [deadlineAt, hs.hash?_purge, Option.bind_eq_some_iff]
  refine exists_congr fun h => ?_
  rw [Option.filter_eq_some_iff, and_assoc, and_comm (b := h.deadline = some d)]
  refine and_congr_right fun _ => and_congr_right fun hd => ?_
  simp [expired, hd]

theorem Tidy.deadlineAt_of_le (hs : s.Tidy) (hle : t ≤ now) (hd : s.deadlineAt now key = some d) :
    s.deadlineAt t key = some d := by
  obtain ⟨h, hk, hd, hlt⟩ := hs.deadlineAt_eq_some_iff.mp hd
  exact hs.deadlineAt_eq_some_iff.mpr ⟨h, hk, hd, by omega⟩

/-- **A deadline that is seen after an operation was given by it or seen before it.** -/
theorem Tidy.deadlineAt_answer (hs : s.Tidy)
    (hd : (s.answer now key op).2.deadlineAt now k = some d) :
    k = key ∧ op.deadline? now = some d ∨ s.deadlineAt now k = some d := by
  obtain ⟨h, hk, hh, hlt⟩ := (hs.answer now key op).deadlineAt_eq_some_iff.mp hd
  clear hd
  have hkept (hk : s.hash? k = some h) : s.deadlineAt now k = some d :=
    hs.deadlineAt_eq_some_iff.mpr ⟨h, hk, hh, hlt⟩
  have hseen (hk : (s.purge now).hash? k = some h) : s.deadlineAt now k = some d := by
    rw [deadlineAt, hk, Option.bind_some, hh]
  have hc := changes_answer now s key op
  generalize (s.answer now key op).2 = after at hc hk
  cases hc with
  | idle => exact .inr (hkept hk)
  | looked => exact .inr (hseen hk)
  | written new hne hnew =>
    rw [hash?_put] at hk
    split_ifs at hk with hkey
    · cases hk
      rw [beq_iff_eq] at hkey
      rw [hh, ← hkey] at hnew
      cases hg : op.deadline? now with
      | none => exact .inr (by rw [deadlineAt, hnew, hg, Option.none_or])
      | some g => exact .inl ⟨hkey, by rw [hnew, hg, Option.some_or]⟩
    · exact .inr (hseen hk)
  | emptied =>
    rw [hash?_delete] at hk
    split_ifs at hk
    exact .inr (hseen hk)
  | deleted =>
    rw [hash?_delete] at hk
    split_ifs at hk
    exact .inr (hkept hk)

end DocSearch.Store
