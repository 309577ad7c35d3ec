import Mathlib
import DocSearch.Proofs.Cache.Kept
import DocSearch.Proofs.Cache.Run
/-!
# The cache stays in step with the index

As long as no single count fails to move, the hash of the counts is absent or tells the counts of the
index behind every request, whatever else fails.

* `Cache.Cached n x p`: the store keeps the tally `n`, the index is `x`, and the hash satisfies `p`.
* `ensures_isHydrated`, `ensures_fill`, `ensures_read`, `ensures_afterChange`: what the parts of a
  call ensure; `ensures_getTags`, `ensures_flush`: what whole calls do.
* `CacheStep.Faithful`: a step tells the index as it is and changes it by its own call alone.
* **`history_faithful`**: every step of every history is faithful.
-/

namespace DocSearch

namespace Cache

/-- The store keeps the tally, the index is this one, and the hash of the counts satisfies `p`. -/
structure Cached (n : Tally) (x : TagIndex) (p : Option Hash → Prop) (s : Store) (y : TagIndex) :
    Prop where
  kept : n.KeptIn s
  index : y = x
  hash : p (s.hash? tagsKey)

/-- Nothing is known about the hash. -/
def Any (_ : Option Hash) : Prop := True

/-- The hash is there, unless there is nothing to tell. -/
def Filled (n : Tally) (h : Option Hash) : Prop := h = none → ∀ t, n t = 0

/-- Counts can always be moved. -/
def MovesCounts (p : FaultPoint) : Prop := p = .adjust

variable {n n' : Tally} {x : TagIndex} {p q : Option Hash → Prop} {s : Store} {y : TagIndex}
  {safe : FaultPoint → Prop}

theorem Cached.mono (h : Cached n x p s y) (hpq : ∀ o, p o → q o) : Cached n x q s y :=
  ⟨h.kept, h.index, hpq _ h.hash⟩

theorem Cached.any (h : Cached n x p s y) : Cached n x Any s y := h.mono fun _ _ => trivial

theorem Cached.purge (h : Cached n x p s y) (now : Nat) : Cached n x p (s.purge now) y :=
  ⟨h.kept.purge now, h.index, by rw [Store.hash?_purge h.kept.lasting]; exact h.hash⟩

/-! ## The parts of a call -/

theorem ends_contains {w : CacheWorld} (hw : w.Calm safe) (h : Cached n x p w.store w.index) :
    Ends safe (fun b => Cached n x fun o => p o ∧ o.isSome = b) (Cached n x p)
      w.contains.1 w.contains.2 := by
  refine ends_calling hw h ⟨⟨hw.ttl, hw.spared⟩, fun b hb => ?_, fun _ he => nomatch he⟩
  exact ⟨(h.purge w.now).kept, h.index, (h.purge w.now).hash, Except.ok.inj hb⟩

theorem ensures_isHydrated :
    Ensures safe (Cached n x p) isHydrated (fun b => Cached n x fun o => p o ∧ o.isSome = b)
      (Cached n x p) :=
  Does.ensures (g := CacheWorld.contains) (fun _ _ => rfl) fun _ hw h => ends_contains hw h

theorem ensures_observe {E : Store → TagIndex → Prop} :
    Ensures safe (Cached n x p) (always .observe) (fun _ => Cached n x p) E := by
  refine ensures_always fun w hw h => ?_
  have hc := ends_contains hw h
  refine ⟨⟨hc.calm.ttl, hc.calm.spared⟩, ?_⟩
  change Cached n x p w.contains.2.store w.contains.2.index
  cases hr : w.contains.1 with
  | ok b => exact (hc.ok b hr).mono fun _ ho => ho.1
  | error e => exact hc.error e hr

theorem ensures_count :
    Ensures safe (Cached n x p) (call (.ofAction Action.count))
      (fun l s y => l = x.counts ∧ Cached n x p s y) (Cached n x p) := by
  refine Does.ensures (g := Action.perform .count) (fun _ _ => rfl) fun w hw h => ?_
  refine ends_calling hw h ⟨hw, fun l hl => ⟨?_, h⟩, fun _ he => nomatch he⟩
  rw [← h.index]
  exact (Except.ok.inj hl).symm

theorem ensures_writeAll {rows : List (String × String)} (hr : n.Rows rows) (hne : rows ≠ []) :
    Ensures safe (Cached n x (· = none)) (call (.ofAction (Action.writeAll rows)))
      (fun _ => Cached n x (Filled n)) (Cached n x Any) := by
  refine Does.ensures (g := Action.perform (.writeAll rows)) (fun _ _ => rfl) fun w hw h => ?_
  refine ends_calling hw h.any ⟨⟨hw.ttl, hw.spared⟩, fun _ _ => ?_, fun _ he => nomatch he⟩
  have hk := Tally.keptIn_setAll h.hash w.now hr
  rw [← hw.ttl] at hk
  refine ⟨hk, h.index, fun hnone => ?_⟩
  have hs : ((w.store.setAll w.now tagsKey rows w.ttl).hash? tagsKey).isSome := by
    simp [Store.setAll, hne]
  rw [hnone] at hs
  simp at hs

theorem ensures_fill :
    Ensures safe (Cached x.count x (· = none)) fill (fun _ => Cached x.count x (Filled x.count))
      (Cached x.count x Any) := by
  refine (ensures_observe (E := Cached x.count x Any)).bind fun _ => ?_
  refine (ensures_count.weaken (fun _ _ h => h) (fun _ _ _ h => h) fun _ _ h => h.any).bind fun l => ?_
  intro es hes s hw hP
  obtain ⟨rfl, h⟩ := hP
  by_cases he : x.counts = []
  -- Nothing is written then, and the missing hash is right: no tag is carried.
  · have hz := TagIndex.counts_eq_nil_iff.mp he
    rw [if_pos (by simp [he])]
    exact ensures_pure (Q := fun _ => Cached x.count x (Filled x.count))
      (fun _ _ h => h.mono fun _ _ _ => hz) es hes s hw h
  · rw [if_neg (by simpa using he)]
    exact ensures_writeAll (Tally.rows_counts x) (by simpa using he) es hes s hw h

/-- **Whatever tally an existing hash tells, the hydration leaves it; an absent hash it fills with the
counts of the index.** -/
theorem ensures_hydrate_cases :
    Ensures safe (Cached n x Any) hydrate
      (fun _ s y => Cached n x (fun o => o.isSome = true) s y ∨
        Cached x.count x (Filled x.count) s y)
      (fun s y => Cached n x Any s y ∨ Cached x.count x Any s y) := by
  have hlook : Ensures safe (Cached n x Any) isHydrated
      (fun b => Cached n x fun o => o.isSome = b)
      (fun s y => Cached n x Any s y ∨ Cached x.count x Any s y) :=
    ensures_isHydrated.weaken (fun _ _ h => h) (fun _ _ _ h => h.mono fun _ ho => ho.2)
      fun _ _ h => .inl h
  have hfill : Ensures safe (Cached n x fun o => o.isSome = false)
      (between (.flag true) (.flag false) fill)
      (fun _ s y => Cached n x (fun o => o.isSome = true) s y ∨
        Cached x.count x (Filled x.count) s y)
      (fun s y => Cached n x Any s y ∨ Cached x.count x Any s y) := by
    refine (ensures_fill.between (quiet_flag true) (quiet_flag false)).weaken (fun s y h => ?_)
      (fun _ _ _ h => .inr h) fun _ _ h => .inr h
    -- An absent hash keeps any tally, so also the one that is about to be written.
    have ha : s.hash? tagsKey = none := by simpa using h.hash
    exact ⟨Tally.keptIn_of_absent ha _, h.index, ha⟩
  refine hlook.bind fun b => ?_
  cases b with
  | true => exact ensures_pure fun _ _ h => .inl h
  | false =>
    refine Ensures.between quiet_acquire quiet_release ?_
    -- The second look, under the lock, relies on nothing that the first one saw.
    refine (hlook.weaken (fun _ _ h => h.any) (fun _ _ _ h => h) fun _ _ h => h).bind fun b => ?_
    cases b with
    | true => exact ensures_pure fun _ _ h => .inl h
    | false => exact hfill

theorem ensures_hydrate :
    Ensures safe (Cached x.count x Any) hydrate (fun _ => Cached x.count x (Filled x.count))
      (Cached x.count x Any) := by
  refine ensures_hydrate_cases.weaken (fun _ _ h => h) (fun _ s y h => ?_) fun _ _ h => h.elim id id
  rcases h with h | h
  · exact h.mono fun o ho hn => by simp [hn] at ho
  · exact h

theorem ensures_read (hb : ∀ t, n t < Text.signedBound) :
    Ensures safe (Cached n x (Filled n)) read (fun l s y => n.Listed l ∧ Cached n x (Filled n) s y)
      (Cached n x Any) := by
  have hrows : Ensures safe (Cached n x (Filled n)) (call (.ofAction Action.readAll))
      (fun rows s y => n.Rows rows ∧ Cached n x (Filled n) s y) (Cached n x Any) := by
    refine Does.ensures (g := Action.perform .readAll) (fun _ _ => rfl) fun w hw h => ?_
    refine ends_calling hw h.any ⟨⟨hw.ttl, hw.spared⟩, fun rows hrows => ?_, fun _ he => nomatch he⟩
    refine ⟨?_, h.purge w.now⟩
    obtain rfl : (w.store.purge w.now).fieldsOf tagsKey = rows := Except.ok.inj hrows
    unfold Store.fieldsOf
    cases ho : (w.store.purge w.now).hash? tagsKey with
    | none => exact Tally.rows_nil ((h.purge w.now).hash ho)
    | some a => exact (h.purge w.now).kept.rows a ho
  refine hrows.bind fun rows => ?_
  intro es hes s hw hP
  exact ensures_pure (Q := fun l s y => n.Listed l ∧ Cached n x (Filled n) s y)
    (fun _ _ h => ⟨hP.1.listed hb, h⟩) es hes s hw hP.2

/-! ## Whole calls -/

theorem count_lt_of_length (hx : x.files.length < Text.signedBound) (t : Tag) :
    x.count t < Text.signedBound := (x.count_le_length t).trans_lt hx

theorem ensures_getTags_filled (hx : x.files.length < Text.signedBound) :
    Ensures safe (Cached x.count x Any) getTags
      (fun l s y => Tally.Listed x.count l ∧ Cached x.count x (Filled x.count) s y)
      (Cached x.count x Any) :=
  ensures_hydrate.bind fun _ => ensures_read (count_lt_of_length hx)

theorem ensures_getTags (hx : x.files.length < Text.signedBound) :
    Ensures safe (Cached x.count x Any) getTags
      (fun l s y => Tally.Listed x.count l ∧ Cached x.count x Any s y) (Cached x.count x Any) :=
  (ensures_getTags_filled hx).weaken (fun _ _ h => h) (fun _ _ _ h => ⟨h.1, h.2.any⟩) fun _ _ h => h

theorem ensures_adjust {tag : Tag} {delta : Int} (hn : ∀ t ≠ tag, n' t = n t)
    (hd : (n' tag : Int) = n tag + delta) (hb : n tag < Text.signedBound)
    {E : Store → TagIndex → Prop} :
    Ensures MovesCounts (Cached n x Any) (call (.ofAction (Action.adjust tag.cacheField delta)))
      (fun _ => Cached n' x Any) E := by
  refine Does.ensures (g := Action.perform (.adjust tag.cacheField delta)) (fun _ _ => rfl)
    fun w hw h => ?_
  obtain ⟨⟨r, hr⟩, hk⟩ := h.kept.adjust w.now hn hd hb
  rw [Action.perform, calling_of_safe hw (show MovesCounts .adjust from rfl)]
  refine ⟨⟨hw.ttl, hw.spared⟩, fun _ _ => ⟨hk, h.index, trivial⟩, fun e he => ?_⟩
  cases hr.symm.trans he

/-- **Behind a change of the index its count is moved, and the rest follows.** -/
theorem ensures_afterChange {change : TagChange} {tag : Tag} {delta : Int}
    (hx : x.files.length < Text.signedBound) (hn : ∀ t ≠ tag, x.count t = n t)
    (hd : (x.count tag : Int) = n tag + if change = .applied then delta else 0)
    (hb : n tag < Text.signedBound) :
    Ensures MovesCounts (Cached n x Any) (afterChange change tag delta)
      (fun l s y => Tally.Listed x.count l ∧ Cached x.count x Any s y) (Cached x.count x Any) := by
  unfold afterChange
  split_ifs at hd ⊢ with hc
  · exact (ensures_adjust hn hd hb).bind fun _ => ensures_getTags hx
  · have e : x.count = n := funext fun t => by
      by_cases ht : t = tag
      · subst ht; omega
      · exact hn t ht
    rw [← e]
    exact ensures_getTags hx

theorem ensures_flush :
    Ensures safe (Cached n x p) flush (fun _ => Cached n x Any) (Cached n x Any) := by
  refine Ensures.between quiet_acquire quiet_release ?_
  refine Does.ensures (g := Action.perform .delete) (fun _ _ => rfl) fun w hw h => ?_
  exact ends_calling hw h.any ⟨⟨hw.ttl, hw.spared⟩, fun _ _ => ⟨h.kept.delete, h.index, trivial⟩,
    fun _ he => nomatch he⟩

/-! ## Changes of the index -/

/-- What a change of a tag in the index leaves behind, whatever it comes back with. -/
structure Changed (safe : FaultPoint → Prop) (tag : Tag) (delta : Int)
    (r : Except ProviderError TagChange) (w w' : CacheWorld) : Prop where
  calm : w'.Calm safe
  store : w'.store = w.store
  same : r ≠ .ok .applied → w'.index = w.index
  length : w'.index.files.length = w.index.files.length
  others : ∀ t ≠ tag, w'.index.count t = w.index.count t
  moved : r = .ok .applied → (w'.index.count tag : Int) = w.index.count tag + delta

theorem changed_calling {f : TagIndex → Except ProviderError TagChange × TagIndex} {tag : Tag}
    {delta : Int} (hf : TagIndex.Changes f tag delta) {w : CacheWorld} (hw : w.Calm safe) :
    Changed safe tag delta
      (w.calling .change fun w => ((f w.index).1, { w with index := (f w.index).2 })).1
      w (w.calling .change fun w => ((f w.index).1, { w with index := (f w.index).2 })).2 := by
  rcases calling_cases w .change fun w => ((f w.index).1, { w with index := (f w.index).2 })
    with e | ⟨text, rest, hr, e⟩
  · rw [e]
    exact ⟨⟨hw.ttl, hw.spared⟩, rfl, hf.same _, hf.length _, hf.others _, hf.moved _⟩
  · rw [e]
    exact ⟨⟨hw.ttl, fun g hg => hw.spared g (hr g hg)⟩, rfl, fun _ => rfl, rfl, fun _ _ => rfl,
      fun h => nomatch h⟩

/-- What happens before a change leaves store and index alone. -/
theorem Changed.of_after {tag : Tag} {delta : Int} {r : Except ProviderError TagChange}
    {w w' : CacheWorld} {e : Happening} (h : Changed safe tag delta r (w.after e) w') :
    Changed safe tag delta r w w' :=
  ⟨h.calm, h.store, h.same, h.length, h.others, h.moved⟩

/-! ## Every step of a history -/

/-- What holds between any two requests. -/
structure InStep (w : CacheWorld) : Prop where
  calm : w.Calm MovesCounts
  kept : Tally.KeptIn w.index.count w.store
  length : w.index.files.length < Text.signedBound

theorem InStep.cached {w : CacheWorld} (h : InStep w) :
    Cached w.index.count w.index Any w.store w.index := ⟨h.kept, rfl, trivial⟩

/-- A call ends in step with the index `x`, and its result satisfies `Q`. -/
structure EndsInStep {α : Type} (x : TagIndex) (Q : α → Prop) (r : Except ProviderError α)
    (w : CacheWorld) : Prop where
  inStep : InStep w
  index : w.index = x
  ok : ∀ a, r = .ok a → Q a

theorem Ends.inStep {α : Type} {Q : α → Prop} {r : Except ProviderError α} {w : CacheWorld}
    (hx : x.files.length < Text.signedBound)
    (h : Ends MovesCounts (fun a s y => Q a ∧ Cached x.count x Any s y) (Cached x.count x Any) r w) :
    EndsInStep x Q r w := by
  have hc : Cached x.count x Any w.store w.index := by
    cases hr : r with
    | ok a => exact (h.ok a hr).2
    | error e => exact h.error e hr
  refine ⟨⟨h.calm, ?_, ?_⟩, hc.index, fun a ha => (h.ok a ha).1⟩
  · rw [hc.index]
    exact hc.kept
  · rwa [hc.index]

theorem change_inStep {es : Nat → Happening} (hes : ∀ k, Spared MovesCounts (es k).armed)
    {c : Call TagChange} {tag : Tag} {delta : Int} {s : CacheWorld × Nat} (hs : InStep s.1)
    (hc : Changed MovesCounts tag delta (performAmid es c s).1 s.1 (performAmid es c s).2.1) :
    EndsInStep (performAmid es c s).2.1.index (Tally.Listed (performAmid es c s).2.1.index.count)
      (performAmid es (c >>= fun change => afterChange change tag delta) s).1
      (performAmid es (c >>= fun change => afterChange change tag delta) s).2.1 := by
  have hx := hc.length ▸ hs.length
  have hk : Tally.KeptIn s.1.index.count (performAmid es c s).2.1.store := hc.store ▸ hs.kept
  rw [performAmid_bind]
  cases hr : (performAmid es c s).1 with
  -- The call ends with the failure of its change, which left the index alone.
  | error e =>
    have e' := hc.same (by simp [hr])
    refine ⟨⟨hc.calm, ?_, hx⟩, rfl, fun _ h => nomatch h⟩
    simp only [e']
    exact hk
  | ok change =>
    refine Ends.inStep hx (ensures_afterChange hx hc.others ?_ ?_ es hes _ hc.calm
      ⟨hk, rfl, trivial⟩)
    · split_ifs with ha
      · exact hc.moved (by rw [hr, ha])
      · rw [hc.same (by rw [hr]; simpa using ha), add_zero]
    · exact count_lt_of_length hs.length tag

end Cache

namespace CacheRequest

/-- The answer tells the index. -/
def Tells (x : TagIndex) : (r : CacheRequest) → r.Reply → Prop
  | tags, l | add _ _, l | remove _ _, l => Tally.Listed x.count l
  | flush, _ | state, _ => True

/-- The change of the index that a request makes first, and what it comes back with. -/
def change? (es : Nat → Happening) :
    CacheRequest → CacheWorld × Nat → Option (Except ProviderError TagChange × (CacheWorld × Nat))
  | add file tag, s => some ((Action.add file tag).performAmid es s)
  | remove file tag, s => some ((Action.remove file tag).performAmid es s)
  | _, _ => none

end CacheRequest

/-- A step tells the index as it is, and changes it by its own call alone. -/
structure CacheStep.Faithful (es : Nat → Happening) (step : CacheStep) : Prop where
  /-- Behind the step the hash is absent or tells the index. -/
  hash : ∀ h, step.after.1.store.hash? tagsKey = some h →
    Tally.Rows step.after.1.index.count h.fields
  /-- So does the answer. -/
  answer : ∀ a, step.result = .ok a → step.request.Tells step.after.1.index a
  /-- What makes no change leaves the index. -/
  unchanged : step.request.change? es step.before = none →
    step.after.1.index = step.before.1.index
  /-- What follows a change leaves the index. -/
  changed : ∀ r s, step.request.change? es step.before = some (r, s) →
    step.after.1.index = s.1.index
  /-- A change that fails leaves the index as it was. -/
  failed : ∀ e s, step.request.change? es step.before = some (.error e, s) →
    step.after.1.index = step.before.1.index

namespace Cache

theorem EndsInStep.faithful {es : Nat → Happening} {r : CacheRequest} {s t : CacheWorld × Nat}
    {a : Except ProviderError r.Reply} {x : TagIndex} (h : EndsInStep x (r.Tells x) a t.1)
    (hn : r.change? es s = none → x = s.1.index)
    (hc : ∀ o u, r.change? es s = some (o, u) → x = u.1.index)
    (hf : ∀ e u, r.change? es s = some (.error e, u) → x = s.1.index) :
    InStep t.1 ∧ CacheStep.Faithful es ⟨r, s, a, t⟩ := by
  obtain ⟨ht, rfl, ha⟩ := h
  exact ⟨ht, ht.kept.rows, ha, hn, hc, hf⟩

theorem EndsInStep.faithful_of_none {es : Nat → Happening} {r : CacheRequest}
    {s t : CacheWorld × Nat} {a : Except ProviderError r.Reply}
    (h : EndsInStep s.1.index (r.Tells s.1.index) a t.1) (hr : r.change? es s = none) :
    InStep t.1 ∧ CacheStep.Faithful es ⟨r, s, a, t⟩ :=
  h.faithful (fun _ => rfl) (fun o u hu => by simp [hr] at hu) fun e u hu => by simp [hr] at hu

theorem EndsInStep.faithful_of_change {es : Nat → Happening} {r : CacheRequest}
    {s t u : CacheWorld × Nat} {a : Except ProviderError r.Reply} {tag : Tag} {delta : Int}
    {o : Except ProviderError TagChange} (h : EndsInStep u.1.index (r.Tells u.1.index) a t.1)
    (hr : r.change? es s = some (o, u)) (hc : Changed MovesCounts tag delta o s.1 u.1) :
    InStep t.1 ∧ CacheStep.Faithful es ⟨r, s, a, t⟩ := by
  refine h.faithful (fun hn => ?_) (fun o' u' hu => ?_) fun e u' hu => ?_
  · simp [hr] at hn
  · obtain ⟨-, rfl⟩ := Prod.mk.inj (Option.some.inj (hr.symm.trans hu))
    rfl
  · obtain ⟨rfl, -⟩ := Prod.mk.inj (Option.some.inj (hr.symm.trans hu))
    exact hc.same (by simp)

/-- **Every request is answered faithfully and leaves the cache in step.** -/
theorem answer_faithful {es : Nat → Happening} (hes : ∀ k, Spared MovesCounts (es k).armed)
    (r : CacheRequest) (s : CacheWorld × Nat) (hs : InStep s.1) :
    InStep (r.answer es s).2.1 ∧
      CacheStep.Faithful es ⟨r, s, (r.answer es s).1, (r.answer es s).2⟩ := by
  cases r with
  | tags =>
    have h := ensures_getTags hs.length es hes s hs.calm hs.cached
    exact EndsInStep.faithful_of_none (r := .tags) (Ends.inStep hs.length h) rfl
  | add file tag =>
    have hc := changed_calling (TagIndex.changes_add file tag) (hs.calm.after (hes s.2))
    have h := change_inStep hes (c := call (.ofAction (Action.add file tag))) hs hc.of_after
    exact EndsInStep.faithful_of_change (r := .add file tag) h rfl hc.of_after
  | remove file tag =>
    have hc := changed_calling (TagIndex.changes_remove file tag) (hs.calm.after (hes s.2))
    have h := change_inStep hes (c := call (.ofAction (Action.remove file tag))) hs hc.of_after
    exact EndsInStep.faithful_of_change (r := .remove file tag) h rfl hc.of_after
  | flush =>
    have h := ensures_flush (p := Any) es hes s hs.calm hs.cached
    refine EndsInStep.faithful_of_none (r := .flush) (Ends.inStep hs.length ?_) rfl
    exact ⟨h.calm, fun a ha => ⟨trivial, h.ok a ha⟩, h.error⟩
  | state =>
    have h := ends_contains (w := s.1.after (es s.2)) (hs.calm.after (hes s.2)) hs.cached
    have hc : Cached s.1.index.count s.1.index Any (s.1.after (es s.2)).contains.2.store
        (s.1.after (es s.2)).contains.2.index := by
      cases hr : (s.1.after (es s.2)).contains.1 with
      | ok b => exact (h.ok b hr).any
      | error e => exact h.error e hr
    refine EndsInStep.faithful_of_none (r := .state) (Ends.inStep hs.length ?_) rfl
    exact ⟨h.calm, fun _ _ => ⟨trivial, hc⟩, fun _ _ => hc⟩

/-- **The cache stays in step with the index throughout every history**, whatever fails but the
moves of single counts. -/
theorem history_faithful {w : CacheWorld} (hw : w.ttl = none)
    (hs : w.store.hash? tagsKey = none) (hx : w.index.files.length < Text.signedBound)
    (hf : Spared MovesCounts w.faults) {es : Nat → Happening}
    (hes : ∀ k, Spared MovesCounts (es k).armed) (rs : List CacheRequest) :
    ∀ step ∈ history es rs (w, 0), step.Faithful es := by
  intro step hm
  have h : InStep w := ⟨⟨hw, hf⟩, Tally.keptIn_of_absent hs _, hx⟩
  exact (history_keeps (answer_faithful hes) rs (w, 0) h step hm).2

/-- One failure, armed before one action. -/
def armedAt (k : Nat) (p : FaultPoint) (i : Nat) : Happening :=
  if i = k then { armed := [(p, "unavailable")] } else {}

/-- The first hydration fails to write, and the cache recovers. -/
theorem history_faithful_failed_hydration :
    ({ index := ⟨[("a", [⟨.manual, "tax 2024"⟩]), ("b", [⟨.auto, "old"⟩])]⟩ } : CacheWorld).ttl = none ∧
    (∀ k, Spared MovesCounts (armedAt 3 .writeAll k).armed) ∧
    ∀ step ∈ history (armedAt 3 .writeAll)
      [.tags, .state, .tags, .add "a" ⟨.auto, "old"⟩, .remove "a" ⟨.manual, "tax 2024"⟩, .flush]
      ({ index := ⟨[("a", [⟨.manual, "tax 2024"⟩]), ("b", [⟨.auto, "old"⟩])]⟩ }, 0),
      step.Faithful (armedAt 3 .writeAll) := by
  have hes : ∀ k, Spared MovesCounts (armedAt 3 .writeAll k).armed := fun k => by
    unfold armedAt
    split_ifs <;> simp [Spared, MovesCounts]
  exact ⟨rfl, hes, history_faithful rfl rfl (by decide) (by simp [Spared]) hes _⟩

end Cache

end DocSearch
