import Mathlib
import DocSearch.Proofs.Cache.InStep
/-!
# When the cache runs ahead of the index

Whatever fails, the rows of the hash tell some tally. It is nowhere above the counts of the index,
until a removal takes a tag from the index and then fails to lower a row that was up to date.

* `CacheWorld.Bounded`: no row tells more files than carry the tag.
* `CacheStep.Strands`: the step leaves such a row behind.
* `answer_trails`, `not_bounded_of_strands`: what a single step does.
* **`history_bounded_iff`**: throughout a history no row is ahead of the index, exactly if no step of
  it strands a row.
-/

namespace DocSearch

/-- No row of the hash tells more files than carry its tag. -/
def CacheWorld.Bounded (w : CacheWorld) : Prop :=
  ∀ h, w.store.hash? tagsKey = some h → ∀ row ∈ h.fields,
    ∃ t n, row = (t.cacheField, toString n) ∧ n ≤ w.index.count t

/-- The move of the count of a tag. -/
abbrev Cache.move (tag : Tag) (delta : Int) : Cache.Call (Option Int) :=
  Cache.call (.ofAction (Action.adjust tag.cacheField delta))

/-- What the move of a count behind a change comes back with, if the change was applied. -/
def Cache.moved? (es : Nat → Happening) (tag : Tag) (delta : Int) :
    Except ProviderError TagChange × (CacheWorld × Nat) → Option (Except ProviderError (Option Int))
  | (.ok .applied, s) => some (Cache.performAmid es (Cache.move tag delta) s).1
  | _ => none

/-- The step takes a tag from a file, but fails to lower its row, which was up to date. -/
def CacheStep.Strands (es : Nat → Happening) (step : CacheStep) : Prop :=
  ∃ file tag e h, step.request = .remove file tag ∧
    Cache.moved? es tag (-1) ((Action.remove file tag).performAmid es step.before) =
      some (.error e) ∧
    step.before.1.store.hash? tagsKey = some h ∧
    (tag.cacheField, toString (step.before.1.index.count tag)) ∈ h.fields

namespace Cache

variable {n n' : Tally} {x : TagIndex} {s : Store} {y : TagIndex} {safe : FaultPoint → Prop}
  {es : Nat → Happening} {w w' : CacheWorld} {tag : Tag} {delta : Int}

/-! ## What a call keeps, whatever fails -/

/-- The hash tells a tally that is nowhere above the index. -/
def TrailsIn (x : TagIndex) (s : Store) (y : TagIndex) : Prop :=
  ∃ n : Tally, (∀ t, n t ≤ x.count t) ∧ Cached n x Any s y

/-- No call is safe from failure. -/
def Nowhere (_ : FaultPoint) : Prop := False

theorem spared_nowhere (faults : List (FaultPoint × String)) : Spared Nowhere faults :=
  fun _ _ h => h

theorem Ensures.of_exists {α ι : Type} {P : ι → Store → TagIndex → Prop} {c : Call α}
    {Q : α → Store → TagIndex → Prop} {E : Store → TagIndex → Prop}
    (h : ∀ i, Ensures safe (P i) c Q E) : Ensures safe (fun s y => ∃ i, P i s y) c Q E :=
  fun es hes s hw ⟨i, hP⟩ => h i es hes s hw hP

theorem ensures_read_cached : Ensures safe (Cached n x Any) read (fun _ => Cached n x Any)
    (Cached n x Any) := by
  have hrows : Ensures safe (Cached n x Any) (call (.ofAction Action.readAll))
      (fun _ => Cached n x Any) (Cached n x Any) := by
    refine Does.ensures (g := Action.perform .readAll) (fun _ _ => rfl) fun w hw h => ?_
    exact ends_calling hw h ⟨⟨hw.ttl, hw.spared⟩, fun _ _ => h.purge w.now, fun _ he => nomatch he⟩
  exact hrows.bind fun _ => ensures_pure fun _ _ h => h

theorem ensures_getTags_trails :
    Ensures safe (TrailsIn x) getTags (fun _ => TrailsIn x) (TrailsIn x) := by
  have htold : ∀ {n : Tally} {s y}, (∀ t, n t ≤ x.count t) →
      Cached n x Any s y ∨ Cached x.count x Any s y → TrailsIn x s y := by
    rintro n s y hn (h | h)
    · exact ⟨n, hn, h⟩
    · exact ⟨x.count, fun _ => le_rfl, h⟩
  have hread : Ensures safe (TrailsIn x) read (fun _ => TrailsIn x) (TrailsIn x) := by
    refine Ensures.of_exists fun n => ?_
    intro es hes s hw ⟨hn, h⟩
    have hr := ensures_read_cached es hes s hw h
    exact ⟨hr.calm, fun a ha => ⟨n, hn, hr.ok a ha⟩, fun e he => ⟨n, hn, hr.error e he⟩⟩
  refine Ensures.bind (Ensures.of_exists fun n => ?_) fun _ => hread
  intro es hes s hw ⟨hn, h⟩
  have hh := ensures_hydrate_cases es hes s hw h
  exact ⟨hh.calm, fun a ha => htold hn ((hh.ok a ha).imp Cached.any Cached.any),
    fun e he => htold hn (hh.error e he)⟩

/-! ## Between two requests -/

/-- The counts do not expire, and the hash tells a tally that is nowhere above the index. -/
structure Trails (w : CacheWorld) : Prop where
  calm : w.Calm Nowhere
  told : TrailsIn w.index w.store w.index

theorem Ends.trails {α : Type} {r : Except ProviderError α}
    (h : Ends Nowhere (fun _ => TrailsIn x) (TrailsIn x) r w) : Trails w ∧ w.index = x := by
  have ht : TrailsIn x w.store w.index := by
    cases hr : r with
    | ok a => exact h.ok a hr
    | error e => exact h.error e hr
  obtain ⟨n, hn, hc⟩ := ht
  obtain rfl := hc.index
  exact ⟨⟨h.calm, n, hn, hc⟩, rfl⟩

theorem Trails.bounded (h : Trails w) : w.Bounded := by
  obtain ⟨n, hn, hc⟩ := h.told
  intro a ha row hrow
  obtain ⟨t, -, rfl⟩ := ((hc.kept.rows a ha).mem_iff row).mp hrow
  exact ⟨t, n t, rfl, hn t⟩

/-! ## A change and the move behind it -/

/-- What moving a count leaves behind: a failure leaves the hash as it is. -/
structure Moved (n : Tally) (tag : Tag) (delta : Int) (r : Except ProviderError (Option Int))
    (w w' : CacheWorld) : Prop where
  calm : w'.Calm Nowhere
  index : w'.index = w.index
  error : ∀ e, r = .error e → w'.store.hash? tagsKey = w.store.hash? tagsKey ∧ n.KeptIn w'.store
  ok : ∀ k, r = .ok k → (n.shift tag delta).KeptIn w'.store

theorem moved_adjust (tag : Tag) (delta : Int) {w : CacheWorld} (hw : w.Calm Nowhere)
    (h : n.KeptIn w.store) :
    Moved n tag delta ((Action.adjust tag.cacheField delta).perform w).1 w
      ((Action.adjust tag.cacheField delta).perform w).2 := by
  rw [Action.perform]
  rcases calling_cases w .adjust fun w =>
    ((w.store.adjust w.now tagsKey tag.cacheField delta).1,
      { w with store := (w.store.adjust w.now tagsKey tag.cacheField delta).2 })
    with e | ⟨text, rest, -, e⟩
  · rw [e]
    obtain ⟨ha, e⟩ | ⟨-, x', e⟩ | ⟨k, s', e, hk, -⟩ := h.adjust_cases w.now tag delta
    · simp only [e]
      refine ⟨⟨hw.ttl, hw.spared⟩, rfl, ?_, fun _ _ => (Tally.keptIn_of_absent ha _).purge w.now⟩
      intro _ he
      cases he
    · simp only [e]
      refine ⟨⟨hw.ttl, hw.spared⟩, rfl, ?_, ?_⟩
      · exact fun _ _ => ⟨Store.hash?_purge h.lasting w.now, h.purge w.now⟩
      · intro _ he
        cases he
    · simp only [e]
      refine ⟨⟨hw.ttl, hw.spared⟩, rfl, ?_, fun _ _ => hk⟩
      intro _ he
      cases he
  · rw [e]
    refine ⟨⟨hw.ttl, spared_nowhere rest⟩, rfl, fun _ _ => ⟨rfl, h⟩, ?_⟩
    intro _ he
    cases he

theorem moved_move {s : CacheWorld × Nat} (hw : s.1.Calm Nowhere) (h : n.KeptIn s.1.store) :
    Moved n tag delta (performAmid es (move tag delta) s).1 s.1
      (performAmid es (move tag delta) s).2.1 := by
  have hm := moved_adjust tag delta (hw.after (spared_nowhere (es s.2).armed)) h
  exact ⟨hm.calm, hm.index, hm.error, hm.ok⟩

theorem Trails.of_kept (hw : w.Calm Nowhere) (hn : ∀ t, n t ≤ w.index.count t)
    (hk : n.KeptIn w.store) : Trails w := ⟨hw, n, hn, hk, rfl, trivial⟩

theorem Trails.getTags {s : CacheWorld × Nat} (hs : Trails s.1) :
    Trails (performAmid es getTags s).2.1 :=
  (ensures_getTags_trails es (fun _ => spared_nowhere _) s hs.calm hs.told).trails.1

theorem moved?_of_applied {o : Except ProviderError TagChange × (CacheWorld × Nat)}
    (h : o.1 = .ok .applied) :
    moved? es tag delta o = some (performAmid es (move tag delta) o.2).1 := by
  obtain ⟨r, u⟩ := o
  obtain rfl : r = .ok .applied := h
  rfl

theorem applied_of_moved? {o : Except ProviderError TagChange × (CacheWorld × Nat)}
    {a : Except ProviderError (Option Int)} (h : moved? es tag delta o = some a) :
    o.1 = .ok .applied := by
  obtain ⟨r, u⟩ := o
  cases r with
  | error e => cases h
  | ok change =>
    cases change with
    | unchanged => cases h
    | applied => rfl

/-- Behind a change that was applied its count is moved. There the request ends, if that fails, and
otherwise it goes on with reading. -/
theorem performAmid_of_applied {c : Call TagChange} {s : CacheWorld × Nat}
    (h : (performAmid es c s).1 = .ok .applied) :
    performAmid es (c >>= fun change => afterChange change tag delta) s =
      match (performAmid es (move tag delta) (performAmid es c s).2).1 with
      | .ok _ => performAmid es getTags (performAmid es (move tag delta) (performAmid es c s).2).2
      | .error e => (.error e, (performAmid es (move tag delta) (performAmid es c s).2).2) := by
  rw [performAmid_bind, h]
  change performAmid es (move tag delta >>= fun _ => getTags) (performAmid es c s).2 = _
  rw [performAmid_bind]
  cases (performAmid es (move tag delta) (performAmid es c s).2).1 <;> rfl

theorem change_trails {c : Call TagChange} {s : CacheWorld × Nat} (hs : Trails s.1)
    (hc : Changed Nowhere tag delta (performAmid es c s).1 s.1 (performAmid es c s).2.1)
    (hm : ∀ e, moved? es tag delta (performAmid es c s) = some (.error e) →
      ∃ n : Tally, (∀ t, n t ≤ (performAmid es c s).2.1.index.count t) ∧ n.KeptIn s.1.store) :
    Trails (performAmid es (c >>= fun change => afterChange change tag delta) s).2.1 := by
  obtain ⟨n, hn, hk⟩ := hs.told
  have hsame : (performAmid es c s).1 ≠ .ok .applied → Trails (performAmid es c s).2.1 := fun hr =>
    Trails.of_kept hc.calm (by rw [hc.same hr]; exact hn) (by rw [hc.store]; exact hk.kept)
  cases hr : (performAmid es c s).1 with
  | error e =>
    rw [performAmid_bind, hr]
    exact hsame (by simp [hr])
  | ok change =>
    cases change with
    | unchanged =>
      rw [performAmid_bind, hr]
      exact (hsame (by simp [hr])).getTags
    | applied =>
      have hv : ∀ m : Tally, m.KeptIn s.1.store → Moved m tag delta
          (performAmid es (move tag delta) (performAmid es c s).2).1 (performAmid es c s).2.1
          (performAmid es (move tag delta) (performAmid es c s).2).2.1 := fun m h =>
        moved_move hc.calm (by rw [hc.store]; exact h)
      rw [performAmid_of_applied hr]
      cases ho : (performAmid es (move tag delta) (performAmid es c s).2).1 with
      | error e =>
        obtain ⟨m, hmn, hmk⟩ := hm e ((moved?_of_applied hr).trans (congrArg some ho))
        have h := hv m hmk
        exact Trails.of_kept h.calm (by rw [h.index]; exact hmn) (h.error e ho).2
      | ok k =>
        have h := hv n hk.kept
        refine (Trails.of_kept h.calm (fun t => ?_) (h.ok k ho)).getTags
        rw [h.index]
        by_cases ht : t = tag
        · subst ht
          have hmoved := hc.moved hr
          have hle := hn t
          rw [Tally.shift_self]
          omega
        · rw [Tally.shift_of_ne n delta ht, hc.others t ht]
          exact hn t

/-! ## Every step of a history -/

theorem changed_add (es : Nat → Happening) {s : CacheWorld × Nat} (hw : s.1.Calm safe)
    (hes : ∀ k, Spared safe (es k).armed) (file : String) (tag : Tag) :
    Changed safe tag 1 ((Action.add file tag).performAmid es s).1 s.1
      ((Action.add file tag).performAmid es s).2.1 :=
  (changed_calling (TagIndex.changes_add file tag) (hw.after (hes s.2))).of_after

theorem changed_remove (es : Nat → Happening) {s : CacheWorld × Nat} (hw : s.1.Calm safe)
    (hes : ∀ k, Spared safe (es k).armed) (file : String) (tag : Tag) :
    Changed safe tag (-1) ((Action.remove file tag).performAmid es s).1 s.1
      ((Action.remove file tag).performAmid es s).2.1 :=
  (changed_calling (TagIndex.changes_remove file tag) (hw.after (hes s.2))).of_after

theorem fits_of_not_strands {s t : CacheWorld × Nat} {file : String}
    {a : Except ProviderError (List TagCount)} (hs : Trails s.1)
    (h : ¬ CacheStep.Strands es ⟨.remove file tag, s, a, t⟩) (e : ProviderError)
    (he : moved? es tag (-1) ((Action.remove file tag).performAmid es s) = some (.error e)) :
    ∃ n : Tally, (∀ u, n u ≤ ((Action.remove file tag).performAmid es s).2.1.index.count u) ∧
      n.KeptIn s.1.store := by
  have hc := changed_remove es hs.calm (fun _ => spared_nowhere _) file tag
  have hmoved := hc.moved (applied_of_moved? he)
  obtain ⟨n, hn, hk⟩ := hs.told
  cases hh : s.1.store.hash? tagsKey with
  | none => exact ⟨_, fun _ => le_rfl, Tally.keptIn_of_absent hh _⟩
  | some a =>
    refine ⟨n, fun u => ?_, hk.kept⟩
    by_cases hu : u = tag
    · subst hu
      by_contra hlt
      have hle := hn u
      -- The row is at the count of the index, so the step strands it.
      have hrow : (u.cacheField, toString (s.1.index.count u)) ∈ a.fields :=
        ((hk.kept.rows a hh).mem_iff _).mpr ⟨u, by omega, by rw [show n u = s.1.index.count u by omega]⟩
      exact h ⟨file, u, e, a, rfl, he, hh, hrow⟩
    · rw [hc.others u hu]
      exact hn u

/-- **A step that strands no row keeps the cache behind the index.** -/
theorem answer_trails (r : CacheRequest) {s : CacheWorld × Nat} (hs : Trails s.1)
    (h : ¬ CacheStep.Strands es ⟨r, s, (r.answer es s).1, (r.answer es s).2⟩) :
    Trails (r.answer es s).2.1 := by
  cases r with
  | tags => exact hs.getTags
  | add file tag =>
    have hc := changed_add es hs.calm (fun _ => spared_nowhere _) file tag
    refine change_trails (c := call (.ofAction (Action.add file tag))) hs hc fun e he => ?_
    have hmoved := hc.moved (applied_of_moved? he)
    obtain ⟨n, hn, hk⟩ := hs.told
    refine ⟨n, fun t => (hn t).trans ?_, hk.kept⟩
    change s.1.index.count t ≤ ((Action.add file tag).performAmid es s).2.1.index.count t
    by_cases ht : t = tag
    · subst ht
      omega
    · rw [hc.others t ht]
  | remove file tag =>
    have hc := changed_remove es hs.calm (fun _ => spared_nowhere _) file tag
    exact change_trails (c := call (.ofAction (Action.remove file tag))) hs hc
      (fits_of_not_strands hs h)
  | flush =>
    obtain ⟨n, hn, hk⟩ := hs.told
    have hf : Ensures Nowhere (Cached n s.1.index Any) flush (fun _ => TrailsIn s.1.index)
        (TrailsIn s.1.index) :=
      ensures_flush.weaken (fun _ _ h => h) (fun _ _ _ h => ⟨n, hn, h⟩) fun _ _ h => ⟨n, hn, h⟩
    exact (hf es (fun _ => spared_nowhere _) s hs.calm hk).trails.1
  | state =>
    obtain ⟨n, hn, hk⟩ := hs.told
    have hw := hs.calm.after (spared_nowhere (es s.2).armed)
    have hc := ends_contains (w := s.1.after (es s.2)) hw hk
    have ht : Ends Nowhere (fun _ => TrailsIn s.1.index) (TrailsIn s.1.index)
        (s.1.after (es s.2)).contains.1 (s.1.after (es s.2)).contains.2 :=
      ⟨hc.calm, fun b hb => ⟨n, hn, (hc.ok b hb).any⟩, fun e he => ⟨n, hn, hc.error e he⟩⟩
    exact ht.trails.1

/-- **A step that strands a row leaves the cache ahead of the index.** -/
theorem not_bounded_of_strands {r : CacheRequest} {s : CacheWorld × Nat} (hs : Trails s.1)
    (h : CacheStep.Strands es ⟨r, s, (r.answer es s).1, (r.answer es s).2⟩) :
    ¬ (r.answer es s).2.1.Bounded := by
  obtain ⟨file, tag, e, a, hr, he, ha, hrow⟩ := h
  dsimp only at hr he ha hrow
  subst hr
  obtain ⟨n, -, hk⟩ := hs.told
  -- The change, and the move behind it.
  let c : Call TagChange := call (.ofAction (Action.remove file tag))
  have hc : Changed Nowhere tag (-1) (performAmid es c s).1 s.1 (performAmid es c s).2.1 :=
    changed_remove es hs.calm (fun _ => spared_nowhere _) file tag
  have happ : (performAmid es c s).1 = .ok .applied := applied_of_moved? he
  have ho : (performAmid es (move tag (-1)) (performAmid es c s).2).1 = .error e :=
    Option.some.inj ((moved?_of_applied happ).symm.trans he)
  have hm : Moved n tag (-1) (performAmid es (move tag (-1)) (performAmid es c s).2).1
      (performAmid es c s).2.1 (performAmid es (move tag (-1)) (performAmid es c s).2).2.1 :=
    moved_move hc.calm (by rw [hc.store]; exact hk.kept)
  have hend : (performAmid es (removeTag file tag) s).2 =
      (performAmid es (move tag (-1)) (performAmid es c s).2).2 := by
    rw [removeTag, performAmid_of_applied happ, ho]
  intro hb
  change (performAmid es (removeTag file tag) s).2.1.Bounded at hb
  rw [hend] at hb
  obtain ⟨t, k, hk, hle⟩ := hb a (by rw [(hm.error e ho).1, hc.store, ha]) _ hrow
  obtain ⟨hf, hv⟩ := Prod.mk.inj hk
  obtain rfl := Tag.cacheField_injective hf
  obtain rfl := Nat.repr_inj.mp hv
  have hmoved := hc.moved happ
  rw [hm.index] at hle
  omega

theorem bounded_iff (rs : List CacheRequest) {s : CacheWorld × Nat} (hs : Trails s.1) :
    (∀ step ∈ history es rs s, step.after.1.Bounded) ↔ ∀ step ∈ history es rs s, ¬ step.Strands es := by
  induction rs generalizing s with
  | nil => simp [history]
  | cons r rs ih =>
    rw [history, List.forall_mem_cons, List.forall_mem_cons]
    by_cases h : CacheStep.Strands es ⟨r, s, (r.answer es s).1, (r.answer es s).2⟩
    · exact iff_of_false (fun hb => not_bounded_of_strands hs h hb.1) fun hb => hb.1 h
    · have ht := answer_trails r hs h
      exact and_congr (iff_of_true ht.bounded h) (ih ht)

theorem trails_of_absent (hw : w.ttl = none) (hs : w.store.hash? tagsKey = none) : Trails w :=
  Trails.of_kept ⟨hw, spared_nowhere _⟩ (fun _ => le_rfl) (Tally.keptIn_of_absent hs w.index.count)

/-- **Throughout a history no row runs ahead of the index, whatever fails, exactly if no step takes a
tag from the index and then fails to lower its row.** -/
theorem history_bounded_iff {w : CacheWorld} (hw : w.ttl = none)
    (hs : w.store.hash? tagsKey = none) (es : Nat → Happening) (rs : List CacheRequest) :
    (∀ step ∈ history es rs (w, 0), step.after.1.Bounded) ↔
      ∀ step ∈ history es rs (w, 0), ¬ step.Strands es :=
  bounded_iff rs (trails_of_absent hw hs)

/-- A move that fails behind an addition strands no row. -/
theorem history_bounded_failed_addition :
    ({ index := ⟨[("a", [⟨.auto, "pdf"⟩]), ("b", [])]⟩ } : CacheWorld).ttl = none ∧
    ({ index := ⟨[("a", [⟨.auto, "pdf"⟩]), ("b", [])]⟩ } : CacheWorld).store.hash? tagsKey = none ∧
    ∀ step ∈ history (armedAt 0 .adjust)
      [.tags, .add "b" ⟨.auto, "pdf"⟩, .remove "a" ⟨.auto, "pdf"⟩, .flush]
      ({ index := ⟨[("a", [⟨.auto, "pdf"⟩]), ("b", [])]⟩ }, 0), step.after.1.Bounded := by
  refine ⟨rfl, rfl, (history_bounded_iff rfl rfl _ _).mpr ?_⟩
  simp only [history, List.forall_mem_cons, List.not_mem_nil, false_implies, implies_true, and_true]
  refine ⟨?_, ?_, ?_, ?_⟩
  · rintro ⟨_, _, _, _, h, -⟩
    cases h
  · rintro ⟨_, _, _, _, h, -⟩
    cases h
  · rintro ⟨_, _, e, _, h, he, -⟩
    cases h
    have hfails := congrArg (fun o => o.any Except.isOk) he
    exact absurd (show _ = false from hfails) (by decide +kernel)
  · rintro ⟨_, _, _, _, h, -⟩
    cases h

/-- A removal whose count fails to move leaves the cache ahead of the index. -/
theorem failed_removal_ahead :
    ¬ ∀ step ∈ history (armedAt 0 .adjust) [.tags, .remove "a" ⟨.auto, "pdf"⟩]
      ({ index := ⟨[("a", [⟨.auto, "pdf"⟩])]⟩ }, 0), step.after.1.Bounded := by
  rw [bounded_iff _ (trails_of_absent rfl rfl)]
  intro h
  refine h _ (List.mem_cons_of_mem _ List.mem_cons_self)
    ⟨"a", ⟨.auto, "pdf"⟩, .other "unavailable", ⟨[("auto pdf", "1")], none⟩, rfl, ?_, ?_, ?_⟩
  all_goals decide +kernel

end Cache

end DocSearch
