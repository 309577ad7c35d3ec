import Mathlib
import DocSearch.Proofs.Cache.Trailing
/-!
# A flush repairs the counts

Nothing is known about the store here: under the key of the counts may stand any rows, with any deadline.

* `Cache.Leaves`: but for the counts a store is what another one is once the clock is looked at;
  **`leaves_perform`**: each action keeps that, and `leaves_performAmid`: so does each call.
* **`ensures_flush_eq`**: a flush drops the counts, and one that fails changes nothing.
* `Cache.afterReads`: any number of reads, which may all fail; `unspoilt_afterReads`.
* **`Cache.flush_repairs`**: behind a flush the first read that ends well gives the counts of the index and
  leaves a hash of them.
-/

namespace DocSearch

namespace Cache

variable {rest : Store} {w : CacheWorld} {x : TagIndex} {es : Nat → Happening}

/-! ## Other keys -/

/-- From now on the store without the counts shows what `rest` shows. -/
def Leaves (rest : Store) (w : CacheWorld) : Prop :=
  ∀ t, w.now ≤ t → (w.store.delete tagsKey).purge t = rest.purge t

theorem Leaves.after (h : Leaves rest w) (e : Happening) : Leaves rest (w.after e) :=
  fun t ht => h t ((Nat.le_add_right _ _).trans ht)

theorem Leaves.write (h : Leaves rest w) {s : Store}
    (hs : (s.delete tagsKey).purge w.now = (w.store.delete tagsKey).purge w.now) :
    Leaves rest { w with store := s } := by
  intro t ht
  rw [← h t ht, ← Store.purge_purge_of_le ht, hs, Store.purge_purge_of_le ht]

theorem Leaves.purge (h : Leaves rest w) : Leaves rest { w with store := w.store.purge w.now } :=
  h.write (by rw [Store.delete_purge, Store.purge_purge])

theorem Leaves.calling {α : Type} {g : CacheWorld → Except ProviderError α × CacheWorld}
    (h : Leaves rest w) (hg : Leaves rest (g w).2) (p : FaultPoint) :
    Leaves rest (w.calling p g).2 := by
  rcases calling_cases w p g with e | ⟨text, faults, -, e⟩
  · rwa [e]
  · rw [e]
    exact h

/-- **Each action leaves other keys to the clock.** -/
theorem leaves_perform (a : Action) (h : Leaves rest w) : Leaves rest (a.perform w).2 := by
  have hcontains : Leaves rest w.contains.2 := h.calling h.purge .contains
  cases a with
  | contains => exact hcontains
  | observe => exact hcontains
  | acquire | release | flag up => exact h
  | count => exact h.calling (g := fun w => (.ok w.index.counts, w)) h .count
  | writeAll rows =>
    exact h.calling (h.write (Store.delete_setAll w.store w.now tagsKey rows w.ttl)) .writeAll
  | readAll => exact h.calling h.purge .readAll
  | adjust field delta =>
    refine h.calling (h.write ?_) .adjust
    rw [Store.delete_adjust, Store.purge_purge]
  | delete =>
    refine h.calling (h.write ?_) .delete
    rw [Store.delete_delete]
  | add file tag =>
    exact h.calling (g := fun w =>
      ((w.index.add file tag).1, { w with index := (w.index.add file tag).2 })) h .change
  | remove file tag =>
    exact h.calling (g := fun w =>
      ((w.index.remove file tag).1, { w with index := (w.index.remove file tag).2 })) h .change

theorem leaves_performAmid {α : Type} (es : Nat → Happening) (c : Call α) {s : CacheWorld × Nat} (h : Leaves rest s.1) :
    Leaves rest (performAmid es c s).2.1 :=
  Procedure.run_keeps (I := fun s : CacheWorld × Nat => Leaves rest s.1)
    (fun a s h => leaves_perform a (h.after (es s.2))) c.run h

/-! ## A flush -/

/-- **A flush drops the counts, and one that fails changes nothing.** -/
theorem ensures_flush_eq {safe : FaultPoint → Prop} (s₀ : Store) (x : TagIndex) :
    Ensures safe (fun s y => s = s₀ ∧ y = x) flush (fun _ s y => s = s₀.delete tagsKey ∧ y = x)
      (fun s y => s = s₀ ∧ y = x) := by
  refine Ensures.between quiet_acquire quiet_release ?_
  refine Does.ensures (g := Action.perform .delete) (fun _ _ => rfl) fun w hw h => ?_
  refine ends_calling hw h ⟨⟨hw.ttl, hw.spared⟩, fun _ _ => ⟨?_, h.2⟩, fun _ he => nomatch he⟩
  dsimp only
  rw [h.1]

/-! ## Reads behind it -/

/-- The world after some reads, each of which may have failed. -/
def afterReads (es : Nat → Happening) (k : Nat) (s : CacheWorld × Nat) : CacheWorld × Nat :=
  (fun s => (performAmid es getTags s).2)^[k] s

/-- No hash tells anything but the index, and other keys are left to the clock. -/
structure Unspoilt (x : TagIndex) (rest : Store) (w : CacheWorld) : Prop where
  calm : w.Calm Nowhere
  cached : Cached x.count x Any w.store w.index
  leaves : Leaves rest w

theorem Unspoilt.next (hx : x.files.length < Text.signedBound) {s : CacheWorld × Nat}
    (h : Unspoilt x rest s.1) : Unspoilt x rest (performAmid es getTags s).2.1 := by
  have he := ensures_getTags hx es (fun _ => spared_nowhere _) s h.calm h.cached
  refine ⟨he.calm, ?_, leaves_performAmid es getTags h.leaves⟩
  cases hr : (performAmid es getTags s).1 with
  | ok l => exact (he.ok l hr).2
  | error e => exact he.error e hr

theorem unspoilt_afterReads (hx : x.files.length < Text.signedBound) {s : CacheWorld × Nat}
    (h : Unspoilt x rest s.1) (k : Nat) : Unspoilt x rest (afterReads es k s).1 := by
  induction k generalizing s with
  | zero => exact h
  | succ k ih => exact ih (h.next hx)

theorem purge_readAll {rows : List (String × String)} (h : (Action.readAll.perform w).1 = .ok rows) :
    (Action.readAll.perform w).2.store.purge (Action.readAll.perform w).2.now =
      (Action.readAll.perform w).2.store := by
  rw [Action.perform] at h ⊢
  rcases calling_cases w .readAll fun w =>
      (.ok (w.store.getAll w.now tagsKey).1, { w with store := (w.store.getAll w.now tagsKey).2 })
    with e | ⟨text, faults, -, e⟩
  · rw [e]
    exact Store.purge_purge w.store w.now
  · rw [e] at h
    cases h

theorem purge_of_getTags {s : CacheWorld × Nat} {l : List TagCount}
    (h : (performAmid es getTags s).1 = .ok l) :
    (performAmid es getTags s).2.1.store.purge (performAmid es getTags s).2.1.now =
      (performAmid es getTags s).2.1.store := by
  obtain ⟨-, -, e⟩ := performAmid_bind_of_ok h
  rw [show performAmid es getTags s = performAmid es read (performAmid es hydrate s).2 from e] at h ⊢
  obtain ⟨rows, hrows, e⟩ := performAmid_bind_of_ok h
  rw [show performAmid es read (performAmid es hydrate s).2 = _ from e]
  exact purge_readAll hrows

/-! ## The counts repaired -/

/-- The list and the hash tell the index, and other keys have been left to the clock. -/
structure Repaired (before : CacheWorld) (l : List TagCount) (after : CacheWorld) : Prop where
  index : after.index = before.index
  listed : Tally.Listed before.index.count l
  rows : ∀ h, after.store.hash? tagsKey = some h →
    Tally.Rows before.index.count h.fields ∧ h.deadline = none
  absent : after.store.hash? tagsKey = none ↔ ∀ t, before.index.count t = 0
  others : after.store.delete tagsKey = (before.store.delete tagsKey).purge after.now

theorem Unspoilt.repaired (hx : x.files.length < Text.signedBound) {before : CacheWorld}
    (hb : before.index = x) {s : CacheWorld × Nat}
    (h : Unspoilt x (before.store.delete tagsKey) s.1) {l : List TagCount}
    (hl : (performAmid es getTags s).1 = .ok l) :
    Repaired before l (performAmid es getTags s).2.1 := by
  subst hb
  obtain ⟨hlisted, hc⟩ :=
    (ensures_getTags_filled hx es (fun _ => spared_nowhere _) s h.calm h.cached).ok l hl
  have hleaves := leaves_performAmid es getTags h.leaves
  have hpurge := purge_of_getTags hl
  generalize (performAmid es getTags s).2.1 = after at hc hleaves hpurge ⊢
  constructor
  case index => exact hc.index
  case listed => exact hlisted
  case rows => exact fun a ha => ⟨hc.kept.rows a ha, hc.kept.lasting.deadline ha⟩
  case absent =>
    refine ⟨hc.hash, fun hz => ?_⟩
    -- A hash would have a row, and so a tag that some file carries.
    by_contra hne
    obtain ⟨a, ha⟩ := Option.ne_none_iff_exists'.mp hne
    obtain ⟨row, hrow⟩ := List.exists_mem_of_ne_nil _ (hc.kept.ne_nil a ha)
    obtain ⟨t, ht, -⟩ := ((hc.kept.rows a ha).mem_iff row).mp hrow
    rw [hz t] at ht
    exact Nat.lt_irrefl 0 ht
  case others => rw [← hleaves after.now le_rfl, ← Store.delete_purge, hpurge]

/-- **A flush repairs the counts**, whatever stood in their place. If it fails it has changed nothing.
Otherwise any number of reads may fail, and the first one that ends well gives the counts of the index
and leaves a hash of them; other keys are left to the clock. -/
theorem flush_repairs {s : CacheWorld × Nat} (hw : s.1.ttl = none)
    (hx : s.1.index.files.length < Text.signedBound) (es : Nat → Happening) :
    (∀ e, (performAmid es flush s).1 = .error e →
      (performAmid es flush s).2.1.store = s.1.store) ∧
    ((performAmid es flush s).1 = .ok () → ∀ k l,
      (performAmid es getTags (afterReads es k (performAmid es flush s).2)).1 = .ok l →
        Repaired s.1 l (performAmid es getTags (afterReads es k (performAmid es flush s).2)).2.1) := by
  have hcalm : s.1.Calm Nowhere := ⟨hw, spared_nowhere _⟩
  have hflush := ensures_flush_eq s.1.store s.1.index es (fun _ => spared_nowhere _) s hcalm ⟨rfl, rfl⟩
  refine ⟨fun e he => (hflush.error e he).1, fun hok k l hl => ?_⟩
  obtain ⟨hstore, hindex⟩ := hflush.ok () hok
  have habsent : (performAmid es flush s).2.1.store.hash? tagsKey = none := by simp [hstore]
  have hrest : Leaves (s.1.store.delete tagsKey) (performAmid es flush s).2.1 := fun t _ => by
    rw [hstore, Store.delete_delete]
  have hstart : Unspoilt s.1.index (s.1.store.delete tagsKey) (performAmid es flush s).2.1 :=
    ⟨hflush.calm, ⟨Tally.keptIn_of_absent habsent _, hindex, trivial⟩, hrest⟩
  exact (unspoilt_afterReads hx hstart k).repaired hx rfl hl

/-- Drifted rows, a row that is no count, and a deadline, beside a key that expires on its own. -/
def drifted : CacheWorld where
  index := ⟨[("a", [⟨.manual, "tax 2024"⟩]), ("b", [⟨.manual, "tax 2024"⟩])]⟩
  store := ⟨[("session", ⟨[("user", "7")], some 5⟩), ("other", ⟨[("x", "1")], none⟩),
    (tagsKey, ⟨[("auto pdf", "17"), ("manual gone", "2"), ("auto jpg", "many")], some 40⟩)]⟩

/-- The first read behind the flush fails to write, at a time when the session has expired. -/
def failedWrite (k : Nat) : Happening :=
  if k = 9 then { elapsed := 6, armed := [(.writeAll, "unavailable")] } else {}

theorem flush_repairs_drifted :
    drifted.ttl = none ∧ drifted.index.files.length < Text.signedBound ∧
      (performAmid failedWrite flush (drifted, 0)).1 = .ok () ∧
      (performAmid failedWrite getTags (performAmid failedWrite flush (drifted, 0)).2).1 =
        .error (.other "unavailable") ∧
      Repaired drifted [⟨"tax 2024", .manual, 2⟩]
        (performAmid failedWrite getTags
          (afterReads failedWrite 1 (performAmid failedWrite flush (drifted, 0)).2)).2.1 := by
  have hx : drifted.index.files.length < Text.signedBound := by decide
  have hok : (performAmid failedWrite flush (drifted, 0)).1 = .ok () := by decide +kernel
  refine ⟨rfl, hx, hok, by decide +kernel, ?_⟩
  exact (flush_repairs rfl hx failedWrite).2 hok 1 _ (by decide +kernel)

end Cache

end DocSearch
