import Mathlib
import DocSearch.Proofs.Cache.Kept
import DocSearch.Proofs.Cache.Pool
/-!
# Writers at the same time

Writers of one direction change the index first and move the counts later, each in a turn of its own.
In between the hash differs from the index by the moves that are still owed, and by nothing else.

* `Phase.owes`, `owed`: the moves that a call, and all calls, still have to make.
* `Told`: the hash tells a tally that lacks just these moves, and it is missing only where writers
  remove tags and none is left. `Told.step`: every phase keeps this.
* `Counting`: what holds between any two turns; `Counting.turn`, `Counting.run`.
* `Counting.exists_nearer`: some turn always brings the calls nearer to their end.
* **`writers_settle`**: the calls can always come to their end, and then the hash tells the index.
-/

namespace DocSearch

namespace Phase

/-- How many moves of a count the call has still to make. -/
def owes (t : Tag) : Phase → Nat
  | move _ tag => if tag = t then 1 else 0
  | _ => 0

/-- The call holds the lock. -/
def HasLock : Phase → Prop
  | lookAgain | raise | note | count | write _ | lower | unlock => True
  | _ => False

/-- The call fits with writers of a direction: it fills the cache only where the hash is missing, and
then it finds nothing to write. -/
def Fits (d : Direction) (s : Store) : Phase → Prop
  | change d' _ _ | move d' _ => d' = d
  | lock | lookAgain | raise | note | count => s.hash? tagsKey = none
  | write _ => False
  | _ => True

/-- How far the call is from its end. -/
def rank : Phase → Nat
  | ended _ => 0
  | read => 1
  | unlock => 2
  | lower => 3
  | write _ => 4
  | count => 5
  | note => 6
  | raise => 7
  | lookAgain => 8
  | lock => 9
  | look => 10
  | move .. => 11
  | change .. => 12

/-! ## One phase -/

section Step

variable {d : Direction} {w : CacheWorld} {ph : Phase} {s s' : Store}

theorem Fits.mono (h : ph.Fits d s) (hs : s.hash? tagsKey = none → s'.hash? tagsKey = none) :
    ph.Fits d s' := by
  cases ph with
  | lock | lookAgain | raise | note | count => exact hs h
  | _ => exact h

theorem perform_observe (hw : w.faults = []) :
    ∃ seen, (Action.perform .observe w).2 =
      { w with store := w.store.purge w.now, observed := seen } := by
  have hc : w.contains = (.ok ((w.store.purge w.now).hash? tagsKey).isSome,
      { w with store := w.store.purge w.now }) := calling_of_faults_eq_nil hw ..
  simp only [Action.perform, CacheWorld.state, hc]
  exact ⟨_, rfl⟩

theorem faults_step (ph : Phase) (hw : w.faults = []) : (ph.step w).2.faults = [] := by
  cases ph with
  | lock =>
    rw [step]
    split_ifs <;> exact hw
  | note =>
    obtain ⟨seen, e⟩ := perform_observe hw
    rw [step, e]
    exact hw
  | _ => exact hw

theorem hasLock_step (ph : Phase) (hl : (ph.step w).2.locked = true) :
    (ph.step w).1.HasLock ∨ w.locked = true ∧ ¬ ph.HasLock := by
  cases ph with
  | lock =>
    rw [step] at hl ⊢
    split_ifs with h
    · exact .inr ⟨h, id⟩
    · exact .inl trivial
  | note => exact .inl trivial
  | unlock => simp [step] at hl
  | lookAgain | count =>
    left
    rw [step]
    split_ifs <;> trivial
  | raise | write | lower => exact .inl trivial
  | _ => exact .inr ⟨hl, id⟩

/-- A call that has not ended and does not wait comes nearer to its end. -/
theorem rank_step (h : 0 < ph.rank) (hl : w.locked = true → ph ≠ lock) :
    (ph.step w).1.rank < ph.rank := by
  cases ph with
  | change d file tag =>
    rw [step]
    rcases (d.change file tag w.index).1 with e | _ | _ <;> simp [rank]
  | move d tag =>
    rw [step]
    rcases (w.store.adjust w.now tagsKey tag.cacheField d.delta).1 with e | _ <;> simp [rank]
  | lock =>
    rw [step, if_neg fun h => hl h rfl]
    simp [rank]
  | look | lookAgain | count =>
    rw [step]
    split_ifs <;> simp [rank]
  | ended => simp [rank] at h
  | _ => simp [step, rank]

theorem ended_of_done {r : Except ProviderError (List TagCount)} (h : ph.rest.run = .done r) :
    ph.rank = 0 := by
  cases ph with
  | change d => cases d <;> cases h
  | ended => rfl
  | _ => cases h

theorem done_of_rank (h : ph.rank = 0) : ∃ r, ph.rest.run = .done r := by
  cases ph with
  | ended r => exact ⟨r, rfl⟩
  | _ => simp [rank] at h

theorem owes_of_rank (h : ph.rank = 0) (t : Tag) : ph.owes t = 0 := by
  cases ph with
  | ended => rfl
  | _ => simp [rank] at h

end Step

end Phase

namespace Direction

theorem changes (d : Direction) (file : String) (tag : Tag) :
    TagIndex.Changes (d.change file tag) tag d.delta := by
  cases d with
  | adding => exact TagIndex.changes_add file tag
  | removing => exact TagIndex.changes_remove file tag

end Direction

/-- The hash tells a tally that lacks just the moves that are owed, and it is missing only where
writers remove tags and none is left. -/
structure Told (d : Direction) (owed : Tally) (s : Store) (x : TagIndex) (n : Tally) : Prop where
  kept : n.KeptIn s
  balance : ∀ t, (n t : Int) + d.delta * owed t = x.count t
  bound : ∀ t, n t ≤ x.files.length
  absent : s.hash? tagsKey = none → d = .removing ∧ ∀ t, n t = 0

namespace Told

variable {d : Direction} {owed others : Tally} {s : Store} {x : TagIndex} {n : Tally} {tag : Tag}

theorem purge (h : Told d owed s x n) (now : Nat) : Told d owed (s.purge now) x n :=
  ⟨h.kept.purge now, h.balance, h.bound, by rw [Store.hash?_purge h.kept.lasting]; exact h.absent⟩

/-- Where the hash is missing, no file carries a tag, and nothing is owed. -/
theorem count_eq_zero (h : Told d owed s x n) (hs : s.hash? tagsKey = none) (t : Tag) :
    x.count t = 0 ∧ owed t = 0 := by
  obtain ⟨rfl, hn⟩ := h.absent hs
  have hb := h.balance t
  rw [hn t, Direction.delta] at hb
  omega

theorem change (h : Told d owed s x n) {f : TagIndex → Except ProviderError TagChange × TagIndex}
    (hf : TagIndex.Changes f tag d.delta) (hr : (f x).1 = .ok .applied) :
    Told d (fun t => (if tag = t then 1 else 0) + owed t) s (f x).2 n := by
  refine ⟨h.kept, fun t => ?_, fun t => ?_, h.absent⟩
  · have hb := h.balance t
    by_cases ht : tag = t
    · subst ht
      have hm := hf.moved x hr
      rw [if_pos rfl]
      push_cast
      linarith
    · rw [if_neg ht, hf.others x t (Ne.symm ht), zero_add]
      exact hb
  · rw [hf.length]
    exact h.bound t

theorem move (h : Told d (fun t => (if tag = t then 1 else 0) + owed t) s x n)
    (hx : x.files.length < Text.signedBound) (now : Nat) :
    (∃ r, (s.adjust now tagsKey tag.cacheField d.delta).1 = .ok r) ∧ s.hash? tagsKey ≠ none ∧
      ∃ n', Told d owed (s.adjust now tagsKey tag.cacheField d.delta).2 x n' := by
  have hs : s.hash? tagsKey ≠ none := fun hs => by
    have ho := (h.count_eq_zero hs tag).2
    rw [if_pos rfl] at ho
    omega
  have hb := h.balance tag
  have hc := x.count_le_length tag
  have hbound := h.bound tag
  rw [if_pos rfl] at hb
  push_cast at hb
  -- What a removal still owes is counted, and what an addition owes is carried, so no count falls below
  -- zero or grows beyond the files.
  have hrange : 0 ≤ (n tag : Int) + d.delta ∧ (n tag : Int) + d.delta ≤ x.files.length := by
    cases d with
    | adding | removing =>
      simp only [Direction.delta] at hb ⊢
      omega
  have hat := n.shift_self tag d.delta
  have hne : ∀ t ≠ tag, n.shift tag d.delta t = n t := fun t ht => n.shift_of_ne d.delta ht
  obtain ⟨ha, -⟩ | ⟨hb', -⟩ | ⟨k, s', e, hk, hz⟩ := h.kept.adjust_cases now tag d.delta
  · exact absurd ha hs
  · omega
  rw [e]
  refine ⟨⟨_, rfl⟩, hs, n.shift tag d.delta, hk, fun t => ?_, fun t => ?_, fun ha => ⟨?_, hz ha⟩⟩
  · by_cases ht : t = tag
    · subst ht
      rw [hat, Int.toNat_of_nonneg hrange.1]
      linarith
    · have := h.balance t
      rw [if_neg (Ne.symm ht), zero_add] at this
      rw [hne t ht]
      exact this
  · by_cases ht : t = tag
    · subst ht
      rw [hat]
      omega
    · rw [hne t ht]
      exact h.bound t
  -- No count is left, so the last one has fallen.
  · have hzero := hz ha tag
    rw [hat] at hzero
    cases d with
    | adding =>
      simp only [Direction.delta] at hzero
      omega
    | removing => rfl

end Told

/-- What the next action of a call does to the hash, where other calls owe the rest. -/
structure Phase.Advances (d : Direction) (others : Tally) (w : CacheWorld) (ph : Phase)
    (w' : CacheWorld) : Prop where
  told : ∃ n, Told d (fun t => ph.owes t + others t) w'.store w'.index n
  fits : ph.Fits d w'.store
  absent : w.store.hash? tagsKey = none → w'.store.hash? tagsKey = none
  length : w'.index.files.length = w.index.files.length

/-- **Every phase leaves the hash short of just what is owed.** -/
theorem Told.step {d : Direction} {others : Tally} {w : CacheWorld} {ph : Phase} {n : Tally}
    (h : Told d (fun t => ph.owes t + others t) w.store w.index n) (hf : ph.Fits d w.store)
    (hw : w.faults = []) (hx : w.index.files.length < Text.signedBound) :
    (ph.step w).1.Advances d others w (ph.step w).2 := by
  have hp := Store.hash?_purge h.kept.lasting w.now
  cases ph with
  | change d' file tag =>
    obtain rfl : d' = d := hf
    have hc := d'.changes file tag
    have hn : Told d' others w.store w.index n := by simpa [Phase.owes] using h
    rw [Phase.step]
    cases hr : (d'.change file tag w.index).1 with
    | error e =>
      have hs := hc.same w.index (by simp [hr])
      refine ⟨⟨n, ?_⟩, trivial, id, by rw [hs]⟩
      simpa [Phase.owes, hs] using hn
    | ok r =>
      cases r with
      | applied => exact ⟨⟨n, hn.change hc hr⟩, rfl, id, hc.length _⟩
      | unchanged =>
        have hs := hc.same w.index (by simp [hr])
        refine ⟨⟨n, ?_⟩, trivial, id, by rw [hs]⟩
        simpa [Phase.owes, hs] using hn
  | move d' tag =>
    obtain rfl : d' = d := hf
    obtain ⟨⟨r, hr⟩, hs, n', hn'⟩ := h.move hx w.now
    rw [Phase.step, hr]
    refine ⟨⟨n', ?_⟩, trivial, fun ha => absurd ha hs, rfl⟩
    simpa [Phase.owes] using hn'
  | look =>
    rw [Phase.step]
    split_ifs with hc
    · exact ⟨⟨n, h.purge w.now⟩, trivial, hp.trans, rfl⟩
    · have ha : (w.store.purge w.now).hash? tagsKey = none := by simpa [Store.contains] using hc
      exact ⟨⟨n, h.purge w.now⟩, ha, hp.trans, rfl⟩
  | lock =>
    rw [Phase.step]
    split_ifs with hl
    · exact ⟨⟨n, h⟩, hf, id, rfl⟩
    · exact ⟨⟨n, h⟩, hf, id, rfl⟩
  | lookAgain =>
    rw [Phase.step]
    split_ifs with hc
    · exact ⟨⟨n, h.purge w.now⟩, trivial, hp.trans, rfl⟩
    · exact ⟨⟨n, h.purge w.now⟩, hp.trans hf, hp.trans, rfl⟩
  | raise => exact ⟨⟨n, h⟩, hf, id, rfl⟩
  | note =>
    obtain ⟨seen, e⟩ := Phase.perform_observe hw
    rw [Phase.step, e]
    exact ⟨⟨n, h.purge w.now⟩, hp.trans hf, hp.trans, rfl⟩
  | count =>
    -- No file carries a tag then, so there is nothing to write.
    have he : w.index.counts = [] :=
      TagIndex.counts_eq_nil_iff.mpr fun t => (h.count_eq_zero hf t).1
    rw [Phase.step, he]
    exact ⟨⟨n, h⟩, trivial, id, rfl⟩
  | write => exact hf.elim
  | lower | unlock | ended => exact ⟨⟨n, h⟩, trivial, id, rfl⟩
  | read => exact ⟨⟨n, h.purge w.now⟩, trivial, hp.trans, rfl⟩

/-! ## Turns -/

/-- The moves that all calls still have to make. -/
def owed (phs : List Phase) : Tally := fun t => (phs.map (Phase.owes t)).sum

/-- What holds between any two turns. -/
structure Counting (d : Direction) (p : Pool) (phs : List Phase) : Prop where
  calls : p.calls = phs.map Phase.rest
  faults : p.world.faults = []
  length : p.world.index.files.length < Text.signedBound
  told : ∃ n, Told d (owed phs) p.world.store p.world.index n
  fits : ∀ ph ∈ phs, ph.Fits d p.world.store
  held : p.world.locked = true → ∃ ph ∈ phs, ph.HasLock

theorem owed_append_cons (l₁ l₂ : List Phase) (ph : Phase) :
    owed (l₁ ++ ph :: l₂) = fun t => ph.owes t + owed (l₁ ++ l₂) t := by
  funext t
  simp only [owed, List.map_append, List.map_cons, List.sum_append, List.sum_cons]
  omega

theorem owed_eq_zero {phs : List Phase} {t : Tag} (h : ∀ ph ∈ phs, ph.owes t = 0) :
    owed phs t = 0 := by
  refine List.sum_eq_zero fun k hk => ?_
  obtain ⟨ph, hph, rfl⟩ := List.mem_map.mp hk
  exact h ph hph

theorem exists_around {phs : List Phase} {i : Nat} {ph : Phase} (h : phs[i]? = some ph) :
    ∃ l₁ l₂, phs = l₁ ++ ph :: l₂ ∧ ∀ ph', phs.set i ph' = l₁ ++ ph' :: l₂ := by
  obtain ⟨hi, rfl⟩ := List.getElem?_eq_some_iff.mp h
  refine ⟨phs.take i, phs.drop (i + 1), ?_, fun ph' => ?_⟩
  · rw [List.getElem_cons_drop, List.take_append_drop]
  · rw [List.set_eq_take_append_cons_drop, if_pos hi]

namespace Counting

variable {d : Direction} {p : Pool} {phs : List Phase}

theorem later (h : Counting d p phs) (elapsed : Nat) :
    Counting d ⟨Pool.later p.world elapsed, p.calls⟩ phs :=
  ⟨h.calls, h.faults, h.length, h.told, h.fits, h.held⟩

theorem advance (h : Counting d p phs) {i : Nat} {ph : Phase} (hi : phs[i]? = some ph) :
    Counting d ⟨(ph.step p.world).2, (phs.set i (ph.step p.world).1).map Phase.rest⟩
      (phs.set i (ph.step p.world).1) := by
  obtain ⟨l₁, l₂, rfl, hset⟩ := exists_around hi
  obtain ⟨n, hn⟩ := h.told
  rw [owed_append_cons] at hn
  have hs := hn.step (h.fits ph (by simp)) h.faults h.length
  rw [hset]
  refine ⟨rfl, Phase.faults_step ph h.faults, hs.length ▸ h.length, ?_, fun q hq => ?_, fun hl => ?_⟩
  · rw [owed_append_cons]
    exact hs.told
  · rcases List.mem_cons.mp (List.perm_middle.mem_iff.mp hq) with rfl | hq
    · exact hs.fits
    · exact (h.fits q (List.perm_middle.mem_iff.mpr (.tail _ hq))).mono hs.absent
  · obtain hl | ⟨hl, hnot⟩ := Phase.hasLock_step ph hl
    · exact ⟨_, by simp, hl⟩
    · obtain ⟨q, hq, hlock⟩ := h.held hl
      rcases List.mem_cons.mp (List.perm_middle.mem_iff.mp hq) with rfl | hq
      · exact absurd hlock hnot
      · exact ⟨q, List.perm_middle.mem_iff.mpr (.tail _ hq), hlock⟩

theorem turn_eq (h : Counting d p phs) {t : Turn} {ph : Phase} (hi : phs[t.place]? = some ph) :
    p.turn t = ⟨(ph.step (Pool.later p.world t.elapsed)).2,
      (phs.set t.place (ph.step (Pool.later p.world t.elapsed)).1).map Phase.rest⟩ := by
  have hc : p.calls[t.place]? = some ph.rest := by rw [h.calls, List.getElem?_map, hi]; rfl
  have hw : (Pool.later p.world t.elapsed).faults = [] := h.faults
  rw [Pool.turn, hc]
  simp only [Phase.advance_rest hw, h.calls, List.map_set]
  rfl

/-- **What holds between any two turns is kept by a turn.** -/
theorem turn (h : Counting d p phs) (t : Turn) : ∃ phs', Counting d (p.turn t) phs' := by
  cases hi : phs[t.place]? with
  | none =>
    refine ⟨phs, ?_⟩
    have hc : p.calls[t.place]? = none := by rw [h.calls, List.getElem?_map, hi]; rfl
    rw [Pool.turn, hc]
    exact h.later t.elapsed
  | some ph =>
    rw [h.turn_eq hi]
    exact ⟨_, (h.later t.elapsed).advance hi⟩

theorem run (h : Counting d p phs) (turns : List Turn) : ∃ phs', Counting d (p.run turns) phs' := by
  induction turns generalizing p phs with
  | nil => exact ⟨phs, h⟩
  | cons t turns ih =>
    obtain ⟨phs', h'⟩ := h.turn t
    exact ih h'

/-! ## The end -/

theorem exists_ready (h : Counting d p phs) (hr : ∃ ph ∈ phs, 0 < ph.rank) :
    ∃ ph ∈ phs, 0 < ph.rank ∧ (p.world.locked = true → ph ≠ .lock) := by
  cases hl : p.world.locked with
  | false =>
    obtain ⟨ph, hm, hpos⟩ := hr
    exact ⟨ph, hm, hpos, nofun⟩
  | true =>
    -- Who has the lock waits for nobody.
    obtain ⟨ph, hm, hlock⟩ := h.held hl
    refine ⟨ph, hm, ?_, ?_⟩
    · cases ph <;> first | exact hlock.elim | simp [Phase.rank]
    · rintro - rfl
      exact hlock

/-- **Some turn brings the calls nearer to their end.** -/
theorem exists_nearer (h : Counting d p phs) (hr : ∃ ph ∈ phs, 0 < ph.rank) :
    ∃ t phs', Counting d (p.turn t) phs' ∧
      (phs'.map Phase.rank).sum < (phs.map Phase.rank).sum := by
  obtain ⟨ph, hm, hpos, hready⟩ := h.exists_ready hr
  obtain ⟨i, hi⟩ := List.mem_iff_getElem?.mp hm
  have hlt := Phase.rank_step (w := Pool.later p.world 0) hpos hready
  refine ⟨⟨i, 0⟩, _, h.turn_eq (t := ⟨i, 0⟩) hi ▸ (h.later 0).advance hi, ?_⟩
  obtain ⟨l₁, l₂, rfl, hset⟩ := exists_around hi
  rw [hset]
  simp only [List.map_append, List.map_cons, List.sum_append, List.sum_cons]
  omega

theorem ended_iff (h : Counting d p phs) : p.Ended ↔ ∀ ph ∈ phs, ph.rank = 0 := by
  rw [Pool.Ended, h.calls, List.forall_mem_map]
  exact forall₂_congr fun ph _ => ⟨fun ⟨_, e⟩ => Phase.ended_of_done e, Phase.done_of_rank⟩

theorem exists_ended (h : Counting d p phs) : ∃ turns, (p.run turns).Ended := by
  induction hm : (phs.map Phase.rank).sum using Nat.strong_induction_on generalizing p phs with
  | _ m ih =>
    by_cases hr : ∃ ph ∈ phs, 0 < ph.rank
    · obtain ⟨t, phs', h', hlt⟩ := h.exists_nearer hr
      obtain ⟨turns, he⟩ := ih _ (hm ▸ hlt) h' rfl
      exact ⟨t :: turns, he⟩
    · refine ⟨[], h.ended_iff.mpr fun ph hph => ?_⟩
      by_contra hne
      exact hr ⟨ph, hph, Nat.pos_of_ne_zero hne⟩

theorem keptIn_of_ended (h : Counting d p phs) (he : p.Ended) :
    Tally.KeptIn p.world.index.count p.world.store ∧
      (p.world.store.hash? tagsKey = none → ∀ t, p.world.index.count t = 0) := by
  obtain ⟨n, hn⟩ := h.told
  have ho : ∀ t, owed phs t = 0 := fun t => owed_eq_zero fun ph hph =>
    Phase.owes_of_rank (h.ended_iff.mp he ph hph) t
  have hc : n = p.world.index.count := funext fun t => by
    have hb := hn.balance t
    rw [ho] at hb
    simpa using hb
  exact ⟨hc ▸ hn.kept, fun hs t => (hn.count_eq_zero hs t).1⟩

end Counting

theorem exists_phases {d : Direction} {calls : List (Cache.Call (List TagCount))}
    (hc : ∀ c ∈ calls, c = Cache.getTags ∨ ∃ file tag, c = d.call file tag) :
    ∃ phs : List Phase, calls = phs.map Phase.rest ∧
      ∀ ph ∈ phs, ph = .look ∨ ∃ file tag, ph = .change d file tag := by
  induction calls with
  | nil => exact ⟨[], rfl, by simp⟩
  | cons c calls ih =>
    rw [List.forall_mem_cons] at hc
    obtain ⟨phs, rfl, hphs⟩ := ih hc.2
    rcases hc.1 with rfl | ⟨file, tag, rfl⟩
    · exact ⟨.look :: phs, rfl, List.forall_mem_cons.mpr ⟨.inl rfl, hphs⟩⟩
    · exact ⟨.change d file tag :: phs, rfl, List.forall_mem_cons.mpr ⟨.inr ⟨file, tag, rfl⟩, hphs⟩⟩

theorem counting_start {d : Direction} {w : CacheWorld}
    {calls : List (Cache.Call (List TagCount))}
    (hc : ∀ c ∈ calls, c = Cache.getTags ∨ ∃ file tag, c = d.call file tag)
    (hf : w.faults = []) (hl : w.locked = false) (hk : Tally.KeptIn w.index.count w.store)
    (hs : w.store.hash? tagsKey = none → d = .removing ∧ ∀ t, w.index.count t = 0)
    (hx : w.index.files.length < Text.signedBound) : ∃ phs, Counting d ⟨w, calls⟩ phs := by
  obtain ⟨phs, rfl, hphs⟩ := exists_phases hc
  have ho : ∀ t, owed phs t = 0 := fun t => owed_eq_zero fun ph hph => by
    rcases hphs ph hph with rfl | ⟨file, tag, rfl⟩ <;> rfl
  refine ⟨phs, rfl, hf, hx, ⟨w.index.count, hk, fun t => ?_, w.index.count_le_length, hs⟩,
    fun ph hph => ?_, fun h => ?_⟩
  · simp [ho t]
  · rcases hphs ph hph with rfl | ⟨file, tag, rfl⟩
    · trivial
    · rfl
  · simp [hl] at h

/-- **Writers of one direction lose no change.** Calls start together, each of them an addition, or each
of them a removal, or a question for the tags, where the hash tells the index. Whatever turns they take,
they can come to their end, and when they have, the hash tells the index again, and is missing exactly
when no file carries a tag. An addition needs a hash that is there: one that meets the hydration of a
missing hash is counted twice. -/
theorem writers_settle {d : Direction} {w : CacheWorld} {calls : List (Cache.Call (List TagCount))}
    (hc : ∀ c ∈ calls, c = Cache.getTags ∨ ∃ file tag, c = d.call file tag)
    (hf : w.faults = []) (hl : w.locked = false) (hk : Tally.KeptIn w.index.count w.store)
    (hs : w.store.hash? tagsKey = none → d = .removing ∧ ∀ t, w.index.count t = 0)
    (hx : w.index.files.length < Text.signedBound) (turns : List Turn) :
    (∃ more, (((Pool.mk w calls).run turns).run more).Ended) ∧
    (((Pool.mk w calls).run turns).Ended →
      (∀ h, ((Pool.mk w calls).run turns).world.store.hash? tagsKey = some h →
        Tally.Rows ((Pool.mk w calls).run turns).world.index.count h.fields) ∧
      (((Pool.mk w calls).run turns).world.store.hash? tagsKey = none ↔
        ∀ t, ((Pool.mk w calls).run turns).world.index.count t = 0)) := by
  obtain ⟨phs, h₀⟩ := counting_start hc hf hl hk hs hx
  obtain ⟨phs', h⟩ := h₀.run turns
  refine ⟨h.exists_ended, fun he => ?_⟩
  obtain ⟨hk', hz⟩ := h.keptIn_of_ended he
  refine ⟨hk'.rows, hz, fun hzero => ?_⟩
  cases hh : ((Pool.mk w calls).run turns).world.store.hash? tagsKey with
  | none => rfl
  | some a =>
    -- A hash has a row, and that row tells a tag that some file carries.
    obtain ⟨r, hr⟩ := List.exists_mem_of_ne_nil _ (hk'.ne_nil a hh)
    obtain ⟨t, ht, -⟩ := ((hk'.rows a hh).mem_iff r).mp hr
    exact absurd (hzero t) ht.ne'

/-- A store with the counts of an index, and nothing else. -/
def hashOf (x : TagIndex) : Store := ⟨[(tagsKey, ⟨x.counts.map TagCount.toRow, none⟩)]⟩

theorem keptIn_hashOf {x : TagIndex} (h : x.counts ≠ []) : Tally.KeptIn x.count (hashOf x) := by
  have hh : ∀ a, (hashOf x).hash? tagsKey = some a → a = ⟨x.counts.map TagCount.toRow, none⟩ :=
    fun a ha => by simpa [hashOf, Store.hash?, List.lookup] using ha.symm
  refine ⟨fun p hp _ => ?_, fun a ha => ?_, fun a ha => ?_⟩
  · rw [List.mem_singleton.mp hp]
  · rw [hh a ha]
    exact Tally.rows_counts x
  · rw [hh a ha]
    simpa using h

/-- Two files with one tag. -/
def twoFiles : TagIndex := ⟨[("a", [⟨.manual, "tax 2024"⟩]), ("b", [⟨.manual, "tax 2024"⟩])]⟩

/-- The tag is taken from both files while somebody asks for the tags. -/
def lastTag : Pool :=
  ⟨{ index := twoFiles, store := hashOf twoFiles },
    [Cache.removeTag "a" ⟨.manual, "tax 2024"⟩, Cache.removeTag "b" ⟨.manual, "tax 2024"⟩,
      Cache.getTags]⟩

/-- Both removals change the index before either moves the count. The third call finds the hash gone,
takes the lock, and the others wait for it. -/
def lastTagTurns : List Turn :=
  [0, 1, 1, 0, 2, 2, 0, 0, 1, 1, 2, 2, 2, 2, 2, 2, 2, 2, 1, 1, 1, 1, 1, 1, 1, 1, 0, 0, 0, 0, 0, 0, 0,
    0].map fun i => { place := i, elapsed := i }

/-- The hash vanishes amid the calls, and stays away. -/
theorem writers_settle_last_tag :
    Tally.KeptIn lastTag.world.index.count lastTag.world.store ∧ (lastTag.run lastTagTurns).Ended ∧
      ((lastTag.run lastTagTurns).world.store.hash? tagsKey = none ↔
        ∀ t, (lastTag.run lastTagTurns).world.index.count t = 0) := by
  have hk : Tally.KeptIn lastTag.world.index.count lastTag.world.store :=
    keptIn_hashOf (by decide +kernel)
  have hc : ∀ c ∈ lastTag.calls, c = Cache.getTags ∨
      ∃ file tag, c = Direction.removing.call file tag := by
    simp only [lastTag, List.mem_cons, List.not_mem_nil, or_false]
    rintro c (rfl | rfl | rfl)
    · exact .inr ⟨_, _, rfl⟩
    · exact .inr ⟨_, _, rfl⟩
    · exact .inl rfl
  have hs : lastTag.world.store.hash? tagsKey ≠ none := by decide +kernel
  have he : (lastTag.run lastTagTurns).Ended := by decide +kernel
  have h := writers_settle hc rfl rfl hk (fun h => absurd h hs) (by decide) lastTagTurns
  exact ⟨hk, he, (h.2 he).2⟩

/-- Where the hash is missing, an addition that has changed the index can meet a hydration that counts
this change already. -/
example :
    ((Pool.mk { index := ⟨[("a", [])]⟩ } [Cache.addTag "a" ⟨.manual, "x"⟩, Cache.getTags]).run
      ([0, 1, 1, 1, 1, 1, 1, 1, 1, 1, 1, 0, 0, 0].map fun i => { place := i })).world.store.fieldsOf
        tagsKey = [("manual x", "2")] := by
  decide +kernel

end DocSearch
