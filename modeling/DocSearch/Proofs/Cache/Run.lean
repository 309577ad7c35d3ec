import Mathlib
import DocSearch.Cache.Basic
import DocSearch.Proofs.Procedure
/-!
# Calls of the cache amid what happens around them

Between any two actions of a call time may pass and failures may be armed, so that each single call
of the store or the index may fail.

* `Happening`, `Action.performAmid`, `Cache.performAmid`: an action and a call amid such happenings.
* `CacheRequest`, `CacheStep`, `Cache.history`: what can be asked of a cache, one answer, and all
  steps of a row of requests.
* `Cache.Ensures`: whatever happens, a call that starts with `P` ends with `Q` and its result, or
  with `E` and a failure. The assertions speak of the store and the index alone. Rules:
  `ensures_pure`, **`Ensures.bind`**, **`Ensures.between`**, `Does.ensures` and `ensures_always`.
-/

namespace DocSearch

/-! ## Happenings -/

/-- What happens before an action: time passes, and failures are armed. -/
structure Happening where
  elapsed : Nat := 0
  armed : List (FaultPoint × String) := []

/-- The world behind a happening. -/
def CacheWorld.after (w : CacheWorld) (e : Happening) : CacheWorld :=
  { w with now := w.now + e.elapsed, faults := w.faults ++ e.armed }

/-- Performs an action amid happenings. The number tells how many actions went before. -/
def Action.performAmid (es : Nat → Happening) (a : Action) (s : CacheWorld × Nat) :
    a.Reply × (CacheWorld × Nat) :=
  ((a.perform (s.1.after (es s.2))).1, (a.perform (s.1.after (es s.2))).2, s.2 + 1)

/-- No happening makes a call of a safe point fail. -/
def Spared (safe : FaultPoint → Prop) (faults : List (FaultPoint × String)) : Prop :=
  ∀ f ∈ faults, ¬ safe f.1

/-- The counts do not expire, and no call of a safe point is about to fail. -/
structure CacheWorld.Calm (safe : FaultPoint → Prop) (w : CacheWorld) : Prop where
  ttl : w.ttl = none
  spared : Spared safe w.faults

section Calm

variable {safe : FaultPoint → Prop} {w : CacheWorld}

theorem CacheWorld.Calm.after (hw : w.Calm safe) {e : Happening} (he : Spared safe e.armed) :
    (w.after e).Calm safe :=
  ⟨hw.ttl, fun f hf => (List.mem_append.mp hf).elim (hw.spared f) (he f)⟩

theorem takeFault_subset (p : FaultPoint) (faults : List (FaultPoint × String)) :
    ∀ f ∈ (CacheWorld.takeFault p faults).2, f ∈ faults := by
  induction faults with
  | nil => simp [CacheWorld.takeFault]
  | cons g rest ih =>
    intro f hf
    rw [CacheWorld.takeFault] at hf
    split_ifs at hf with hp
    · exact List.mem_cons_of_mem _ hf
    · rcases List.mem_cons.mp hf with rfl | hf
      · exact List.mem_cons_self
      · exact List.mem_cons_of_mem _ (ih f hf)

theorem takeFault_eq_none {p : FaultPoint} {faults : List (FaultPoint × String)}
    (h : ∀ f ∈ faults, f.1 ≠ p) : (CacheWorld.takeFault p faults).1 = none := by
  induction faults with
  | nil => rfl
  | cons g rest ih =>
    rw [CacheWorld.takeFault, if_neg (h g List.mem_cons_self).symm]
    exact ih fun f hf => h f (List.mem_cons_of_mem _ hf)

variable {α : Type} {p : FaultPoint}
  {call : CacheWorld → Except ProviderError α × CacheWorld}

theorem calling_cases (w : CacheWorld) (p : FaultPoint)
    (call : CacheWorld → Except ProviderError α × CacheWorld) :
    w.calling p call = call w ∨ ∃ text rest, (∀ f ∈ rest, f ∈ w.faults) ∧
      w.calling p call = (.error (.other text), { w with faults := rest }) := by
  have hs := takeFault_subset p w.faults
  unfold CacheWorld.calling
  split
  · rename_i text rest h
    exact .inr ⟨text, rest, fun f hf => hs f (by rwa [h]), rfl⟩
  · exact .inl rfl

theorem calling_of_forall_ne (h : ∀ f ∈ w.faults, f.1 ≠ p) : w.calling p call = call w := by
  have hnone := takeFault_eq_none h
  unfold CacheWorld.calling
  split
  · rename_i h'
    simp [h'] at hnone
  · rfl

theorem calling_of_safe (hw : w.Calm safe) (hp : safe p) : w.calling p call = call w :=
  calling_of_forall_ne fun f hf e => hw.spared f hf (e ▸ hp)

end Calm

namespace Cache

/-- Makes a call of the cache amid happenings. -/
def performAmid {α : Type} (es : Nat → Happening) (c : Call α) (s : CacheWorld × Nat) :
    Except ProviderError α × (CacheWorld × Nat) :=
  Procedure.run (Action.performAmid es) c.run s

/-! ## Requests -/

end Cache

/-- What can be asked of a cache. -/
inductive CacheRequest where
  | tags
  | add (file : String) (tag : Tag)
  | remove (file : String) (tag : Tag)
  | flush
  | state
deriving DecidableEq, Repr, Inhabited

namespace CacheRequest

/-- What a request is answered with, unless it fails. -/
abbrev Reply : CacheRequest → Type
  | tags | add _ _ | remove _ _ => List TagCount
  | flush => Unit
  | state => CacheState

/-- Answers a request amid happenings. -/
def answer (es : Nat → Happening) : (r : CacheRequest) → CacheWorld × Nat →
    Except ProviderError r.Reply × (CacheWorld × Nat)
  | tags, s => Cache.performAmid es Cache.getTags s
  | add file tag, s => Cache.performAmid es (Cache.addTag file tag) s
  | remove file tag, s => Cache.performAmid es (Cache.removeTag file tag) s
  | flush, s => Cache.performAmid es Cache.flush s
  | state, s => ((s.1.after (es s.2)).state.1, (s.1.after (es s.2)).state.2, s.2 + 1)

end CacheRequest

/-- A request, its answer, and the worlds before and after it. -/
structure CacheStep where
  request : CacheRequest
  before : CacheWorld × Nat
  result : Except ProviderError request.Reply
  after : CacheWorld × Nat

namespace Cache

/-- The steps of a row of requests. -/
def history (es : Nat → Happening) : List CacheRequest → CacheWorld × Nat → List CacheStep
  | [], _ => []
  | r :: rs, s =>
    ⟨r, s, (r.answer es s).1, (r.answer es s).2⟩ :: history es rs (r.answer es s).2

/-- **What every step keeps holds throughout a history.** -/
theorem history_keeps {es : Nat → Happening} {I : CacheWorld → Prop} {R : CacheStep → Prop}
    (hstep : ∀ r s, I s.1 → I (r.answer es s).2.1 ∧ R ⟨r, s, (r.answer es s).1, (r.answer es s).2⟩)
    (rs : List CacheRequest) (s : CacheWorld × Nat) (hs : I s.1) :
    ∀ step ∈ history es rs s, I step.after.1 ∧ R step := by
  -- Every request starts where the one before it ended, with `I` carried over.
  induction rs generalizing s with
  | nil => simp [history]
  | cons r rs ih =>
    have h := hstep r s hs
    intro step hm
    rcases List.mem_cons.mp hm with rfl | hm
    · exact h
    · exact ih _ h.1 step hm

/-! ## What a call ensures -/

section Ensures

variable {α β : Type} {safe : FaultPoint → Prop}

/-- The outcome of a call: the result with `Q`, or a failure with `E`. -/
structure Ends (safe : FaultPoint → Prop) (Q : α → Store → TagIndex → Prop)
    (E : Store → TagIndex → Prop) (r : Except ProviderError α) (w : CacheWorld) : Prop where
  calm : w.Calm safe
  ok : ∀ a, r = .ok a → Q a w.store w.index
  error : ∀ e, r = .error e → E w.store w.index

/-- Whatever happens, a call that starts with `P` ends with `Q` or fails with `E`. -/
def Ensures (safe : FaultPoint → Prop) (P : Store → TagIndex → Prop) (c : Call α)
    (Q : α → Store → TagIndex → Prop) (E : Store → TagIndex → Prop) : Prop :=
  ∀ es : Nat → Happening, (∀ k, Spared safe (es k).armed) → ∀ s : CacheWorld × Nat,
    s.1.Calm safe → P s.1.store s.1.index →
      Ends safe Q E (performAmid es c s).1 (performAmid es c s).2.1

variable {P : Store → TagIndex → Prop} {Q R : α → Store → TagIndex → Prop}
  {Q' : β → Store → TagIndex → Prop} {E : Store → TagIndex → Prop}

theorem ensures_pure {a : α} (h : ∀ s x, P s x → Q a s x) : Ensures safe P (pure a) Q E :=
  fun _ _ s hw hP => ⟨hw, fun b hb => by
    obtain rfl : a = b := Except.ok.inj hb
    exact h _ _ hP, fun _ he => nomatch he⟩

theorem performAmid_bind (es : Nat → Happening) (c : Call α) (f : α → Call β)
    (s : CacheWorld × Nat) :
    performAmid es (c >>= f) s =
      match (performAmid es c s).1 with
      | .ok a => performAmid es (f a) (performAmid es c s).2
      | .error e => (.error e, (performAmid es c s).2) := by
  unfold performAmid
  rw [Procedure.run_exceptT_bind]
  cases (Procedure.run (Action.performAmid es) c.run s).1 <;> rfl

/-- A call that ends well ends as its second half, behind a first half that ends well. -/
theorem performAmid_bind_of_ok {es : Nat → Happening} {c : Call α} {f : α → Call β}
    {s : CacheWorld × Nat} {b : β} (h : (performAmid es (c >>= f) s).1 = .ok b) :
    ∃ a, (performAmid es c s).1 = .ok a ∧
      performAmid es (c >>= f) s = performAmid es (f a) (performAmid es c s).2 := by
  rw [performAmid_bind] at h ⊢
  cases hc : (performAmid es c s).1 with
  | ok a => exact ⟨a, rfl, rfl⟩
  | error e =>
    rw [hc] at h
    cases h

theorem Ensures.bind {c : Call α} {f : α → Call β} (hc : Ensures safe P c R E)
    (hf : ∀ a, Ensures safe (R a) (f a) Q' E) : Ensures safe P (c >>= f) Q' E := by
  intro es hes s hw hP
  have h := hc es hes s hw hP
  rw [performAmid_bind]
  cases hr : (performAmid es c s).1 with
  | ok a => exact hf a es hes _ h.calm (h.ok a hr)
  | error e => exact ⟨h.calm, fun b hb => (nomatch hb), fun _ _ => h.error e hr⟩

theorem Ensures.weaken {c : Call α} {P' E' : Store → TagIndex → Prop}
    (hc : Ensures safe P c R E) (hP : ∀ s x, P' s x → P s x) (hQ : ∀ a s x, R a s x → Q a s x)
    (hE : ∀ s x, E s x → E' s x) : Ensures safe P' c Q E' := fun es hes s hw h =>
  have hr := hc es hes s hw (hP _ _ h)
  ⟨hr.calm, fun a ha => hQ a _ _ (hr.ok a ha), fun e he => hE _ _ (hr.error e he)⟩

/-- The call is one action that does `g`. -/
def Does (c : Call α) (g : CacheWorld → Except ProviderError α × CacheWorld) : Prop :=
  ∀ es s, performAmid es c s = ((g (s.1.after (es s.2))).1, (g (s.1.after (es s.2))).2, s.2 + 1)

theorem Does.ensures {c : Call α} {g : CacheWorld → Except ProviderError α × CacheWorld}
    (hc : Does c g)
    (h : ∀ w : CacheWorld, w.Calm safe → P w.store w.index → Ends safe Q E (g w).1 (g w).2) :
    Ensures safe P c Q E := by
  intro es hes s hw hP
  rw [hc]
  exact h _ (hw.after (hes _)) hP

theorem ends_calling {w : CacheWorld} {p : FaultPoint}
    {g : CacheWorld → Except ProviderError α × CacheWorld} (hw : w.Calm safe)
    (hE : E w.store w.index) (h : Ends safe Q E (g w).1 (g w).2) :
    Ends safe Q E (w.calling p g).1 (w.calling p g).2 := by
  rcases calling_cases w p g with e | ⟨text, rest, hr, e⟩
  · rwa [e]
  · rw [e]
    exact ⟨⟨hw.ttl, fun f hf => hw.spared f (hr f hf)⟩, fun a ha => (nomatch ha), fun _ _ => hE⟩

theorem ensures_always {a : Action} {T : Store → TagIndex → Prop}
    (h : ∀ w : CacheWorld, w.Calm safe → P w.store w.index →
      (a.perform w).2.Calm safe ∧ T (a.perform w).2.store (a.perform w).2.index) :
    Ensures safe P (always a) (fun _ => T) E := by
  intro es hes s hw hP
  have ha := h _ (hw.after (hes s.2)) hP
  exact ⟨ha.1, fun _ _ => ha.2, fun _ he => nomatch he⟩

/-- The action moves nothing but the lock or the flag. -/
structure Quiet (a : Action) : Prop where
  store : ∀ w, (a.perform w).2.store = w.store
  index : ∀ w, (a.perform w).2.index = w.index
  ttl : ∀ w, (a.perform w).2.ttl = w.ttl
  faults : ∀ w, (a.perform w).2.faults = w.faults

theorem quiet_acquire : Quiet .acquire := ⟨fun _ => rfl, fun _ => rfl, fun _ => rfl, fun _ => rfl⟩

theorem quiet_release : Quiet .release := ⟨fun _ => rfl, fun _ => rfl, fun _ => rfl, fun _ => rfl⟩

theorem quiet_flag (up : Bool) : Quiet (.flag up) :=
  ⟨fun _ => rfl, fun _ => rfl, fun _ => rfl, fun _ => rfl⟩

theorem Quiet.calm {a : Action} (ha : Quiet a) {w : CacheWorld} (hw : w.Calm safe) :
    (a.perform w).2.Calm safe :=
  ⟨(ha.ttl w).trans hw.ttl, (ha.faults w).symm ▸ hw.spared⟩

theorem performAmid_lift (es : Nat → Happening) (c : Call α) (s : CacheWorld × Nat) :
    performAmid es (ExceptT.lift c.run : Call (Except ProviderError α)) s =
      (.ok (performAmid es c s).1, (performAmid es c s).2) :=
  Procedure.run_exceptT_lift c.run s

theorem performAmid_between (es : Nat → Happening) (before after : Action) (c : Call α)
    (s : CacheWorld × Nat) :
    performAmid es (between before after c) s =
      ((performAmid es c (before.performAmid es s).2).1,
        (after.performAmid es (performAmid es c (before.performAmid es s).2).2).2) := by
  have h : ∀ a t, performAmid es (always a) t = (.ok (a.performAmid es t).1, (a.performAmid es t).2) :=
    fun _ _ => rfl
  simp only [between, performAmid_bind, performAmid_lift, h]
  rfl

theorem Ensures.between {before after : Action} (hb : Quiet before) (ha : Quiet after) {c : Call α}
    (hc : Ensures safe P c Q E) : Ensures safe P (between before after c) Q E := by
  intro es hes s hw hP
  rw [performAmid_between]
  have hw₁ := hb.calm (hw.after (hes s.2))
  have h := hc es hes (before.performAmid es s).2 hw₁ (by
    rw [show (before.performAmid es s).2.1 = (before.perform (s.1.after (es s.2))).2 from rfl,
      hb.store, hb.index]
    exact hP)
  set t := performAmid es c (before.performAmid es s).2
  have e : (after.performAmid es t.2).2.1 = (after.perform (t.2.1.after (es t.2.2))).2 := rfl
  refine ⟨ha.calm (h.calm.after (hes t.2.2)), fun a hr => ?_, fun x hr => ?_⟩
  · rw [e, ha.store, ha.index]
    exact h.ok a hr
  · rw [e, ha.store, ha.index]
    exact h.error x hr

end Ensures

end Cache

end DocSearch
