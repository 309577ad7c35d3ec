import Mathlib
import DocSearch.Proofs.Cache.Guarded
/-!
# What callers of the cache see over a long time

* `Cache.visits`: the actions of a caller with the worlds they are performed in.
* `Cache.togetherAmid`: two readers at once, amid happenings; `togetherAmid_calm`.
* `CacheEvent`, `Cache.session`: calls of all kinds, and changes of the store and the index past the cache,
  in any order.
* `observed_runUntil`: each state that a count of the index notes is the state of its world.
* `Cache.Sound`, **`sound_play`**, `sound_session`: what each event keeps to.
* **`Cache.session_never_sticks`**: the index is counted only while the counts are missing and the state
  says so, and behind each event the state says whether the counts are there.
-/

namespace DocSearch

/-- An action of a caller, and the world it is performed in. -/
structure Visit where
  caller : Nat
  action : Action
  world : CacheWorld

namespace Cache

open Procedure

/-! ## Sessions -/

/-- The actions of a caller up to the first one that `stop` names. -/
def visits {α : Type} (es : Nat → Happening) (stop : Action → CacheWorld × Nat → Bool)
    (caller : Nat) (p : Procedure Action.Reply α) (s : CacheWorld × Nat) : List Visit :=
  (p.visitsUntil (Action.performAmid es) stop s).map fun v =>
    ⟨caller, v.1, v.2.1.after (es v.2.2)⟩

/-- The caller is about to count the index. -/
def atCount (a : Action) (_ : CacheWorld × Nat) : Bool := a = .count

/-- The caller has to wait for the lock. -/
def waiting (a : Action) (s : CacheWorld × Nat) : Bool := a.waits s.1

/-- The first of two readers comes as far as the count of the index. -/
def firstPart (es : Nat → Happening) (s : CacheWorld × Nat) :=
  getTags.run.runUntil (Action.performAmid es) atCount s

/-- The second one comes meanwhile, as far as the lock. -/
def secondPart (es : Nat → Happening) (s : CacheWorld × Nat) :=
  getTags.run.runUntil (Action.performAmid es) waiting (firstPart es s).2

/-- The first one goes on to its end. -/
def firstEnd (es : Nat → Happening) (s : CacheWorld × Nat) :=
  (firstPart es s).1.run (Action.performAmid es) (secondPart es s).2

/-- So does then the second one. -/
def secondEnd (es : Nat → Happening) (s : CacheWorld × Nat) :=
  (secondPart es s).1.run (Action.performAmid es) (firstEnd es s).2

/-- Two callers ask for the tags at once, amid happenings. -/
def togetherAmid (es : Nat → Happening) (s : CacheWorld × Nat) :
    (Except ProviderError (List TagCount) × Except ProviderError (List TagCount)) ×
      (CacheWorld × Nat) :=
  (((firstEnd es s).1, (secondEnd es s).1), (secondEnd es s).2)

/-- The actions of both, in the order in which they are performed. -/
def togetherVisits (es : Nat → Happening) (s : CacheWorld × Nat) : List Visit :=
  visits es atCount 0 getTags.run s ++ visits es waiting 1 getTags.run (firstPart es s).2 ++
    visits es never 0 (firstPart es s).1 (secondPart es s).2 ++
    visits es never 1 (secondPart es s).1 (firstEnd es s).2

end Cache

/-- The actions of a request. -/
def CacheRequest.visits (es : Nat → Happening) : CacheRequest → CacheWorld × Nat → List Visit
  | tags, s => Cache.visits es Procedure.never 0 Cache.getTags.run s
  | add file tag, s => Cache.visits es Procedure.never 0 (Cache.addTag file tag).run s
  | remove file tag, s => Cache.visits es Procedure.never 0 (Cache.removeTag file tag).run s
  | flush, s => Cache.visits es Procedure.never 0 Cache.flush.run s
  | state, s => [⟨0, .contains, s.1.after (es s.2)⟩]

/-- What can happen to a cache: a request, two readers at once, or, past the cache, any change of the store
and the index, which may look at the clock. -/
inductive CacheEvent where
  | ask (request : CacheRequest)
  | together
  | direct (change : Nat → Store → TagIndex → Store × TagIndex)

/-- The actions of an event, and the world behind it. -/
def CacheEvent.play (es : Nat → Happening) :
    CacheEvent → CacheWorld × Nat → List Visit × (CacheWorld × Nat)
  | ask r, s => (r.visits es s, (r.answer es s).2)
  | together, s => (Cache.togetherVisits es s, (Cache.togetherAmid es s).2)
  | direct change, s =>
    let w := s.1.after (es s.2)
    let (store, index) := change w.now w.store w.index
    ([], { w with store := store, index := index }, s.2 + 1)

/-- An event: the worlds before and after it, and what the callers do in between. -/
structure SessionStep where
  before : CacheWorld
  visits : List Visit
  after : CacheWorld

namespace Cache

open Procedure

variable {α : Type} {w : CacheWorld} {es : Nat → Happening} {s : CacheWorld × Nat}
  {stop : Action → CacheWorld × Nat → Bool}

/-- A row of events. -/
def session (es : Nat → Happening) : List CacheEvent → CacheWorld × Nat → List SessionStep
  | [], _ => []
  | e :: rest, s =>
    ⟨s.1, (e.play es s).1, (e.play es s).2.1⟩ :: session es rest (e.play es s).2

/-! ## Nothing happens around two readers -/

theorem after_calm (w : CacheWorld) : w.after {} = w := by
  cases w
  simp [CacheWorld.after]

/-- When nothing happens around two readers, they are those of `together`. -/
theorem togetherAmid_calm (s : CacheWorld × Nat) :
    Prod.map id Prod.fst (togetherAmid (fun _ => {}) s) = together s.1 := by
  have hp : ∀ (a : Action) (s : CacheWorld × Nat),
      Prod.map id Prod.fst (a.performAmid (fun _ => {}) s) = a.perform s.1 := by
    intro a s
    rw [Action.performAmid, after_calm]
    rfl
  unfold togetherAmid secondEnd firstEnd secondPart firstPart together perform
  -- Any two procedures do. With those of the readers every step below would run them.
  generalize getTags.run = p
  have hfirst : Prod.map id Prod.fst (p.runUntil (Action.performAmid fun _ => {}) atCount s) =
      p.runUntil Action.perform (fun a _ => a = .count) s.1 :=
    runUntil_project hp (fun a _ => a = .count) p s
  rw [← hfirst]
  generalize p.runUntil (Action.performAmid fun _ => {}) atCount s = first
  have hsecond : Prod.map id Prod.fst (p.runUntil (Action.performAmid fun _ => {}) waiting first.2) =
      p.runUntil Action.perform Action.waits first.2.1 :=
    runUntil_project hp Action.waits p first.2
  dsimp only [Prod.map, id]
  rw [← hsecond]
  generalize p.runUntil (Action.performAmid fun _ => {}) waiting first.2 = second
  dsimp only [Prod.map, id, ExceptT.run]
  rw [← run_project hp, Prod.map_snd, ← run_project hp]
  rfl

/-! ## What is noted -/

/-- The states that the visits which note the state find. -/
def noted (l : List Visit) : List (Except ProviderError CacheState) :=
  (l.filter (·.action = .observe)).map (·.world.state.1)

theorem noted_append (l l' : List Visit) : noted (l ++ l') = noted l ++ noted l' := by
  rw [noted, List.filter_append, List.map_append, noted, noted]

theorem calling_observed {γ : Type} {g : CacheWorld → Except ProviderError γ × CacheWorld}
    (hg : (g w).2.observed = w.observed) (p : FaultPoint) :
    (w.calling p g).2.observed = w.observed := by
  rcases calling_cases w p g with e | ⟨text, rest, -, e⟩
  · rw [e, hg]
  · rw [e]

theorem perform_observed (a : Action) (w : CacheWorld) :
    (a.perform w).2.observed = w.observed ++ if a = .observe then [w.state.1] else [] := by
  have hcontains : w.contains.2.observed = w.observed := calling_observed rfl _
  cases a with
  | observe => exact congrArg (· ++ [w.state.1]) hcontains
  | contains => exact hcontains.trans (List.append_nil _).symm
  | acquire | release | flag up => exact (List.append_nil _).symm
  | count | writeAll rows | readAll | adjust field delta | delete | add file tag | remove file tag =>
    exact (calling_observed (by rfl) _).trans (List.append_nil _).symm

/-- **The states that a run notes** are those of the worlds it notes them in. -/
theorem observed_runUntil (es : Nat → Happening) (stop : Action → CacheWorld × Nat → Bool)
    (caller : Nat) (p : Procedure Action.Reply α) (s : CacheWorld × Nat) :
    (p.runUntil (Action.performAmid es) stop s).2.1.observed =
      s.1.observed ++ noted (visits es stop caller p s) := by
  induction p generalizing s with
  | done a => exact (List.append_nil _).symm
  | act a next ih =>
    by_cases h : stop a s = true
    · rw [visits, runUntil_of_stop h, visitsUntil_of_stop h]
      exact (List.append_nil _).symm
    · rw [Bool.not_eq_true] at h
      have hv : visits es stop caller (act a next) s = ⟨caller, a, s.1.after (es s.2)⟩ ::
          visits es stop caller (next (a.performAmid es s).1) (a.performAmid es s).2 := by
        rw [visits, visitsUntil_of_perform h rfl, List.map_cons, visits]
        rfl
      have hn : noted [⟨caller, a, s.1.after (es s.2)⟩] =
          if a = .observe then [(s.1.after (es s.2)).state.1] else [] := by
        unfold noted
        split_ifs with ha <;> simp [ha]
      rw [runUntil_of_perform h rfl, ih, hv, ← List.singleton_append, noted_append, hn,
        ← List.append_assoc]
      exact congrArg (· ++ _) (perform_observed a (s.1.after (es s.2)))

theorem observed_run (es : Nat → Happening) (caller : Nat) (p : Procedure Action.Reply α)
    (s : CacheWorld × Nat) :
    (p.run (Action.performAmid es) s).2.1.observed =
      s.1.observed ++ noted (visits es never caller p s) := by
  have h := observed_runUntil es never caller p s
  rw [runUntil_never] at h
  exact h

/-! ## One event -/

/-- What a caller does to count the index. -/
def countsOf (caller : Nat) (l : List Visit) : List Action :=
  ((l.filter (·.caller = caller)).map Visit.action).filter counts

theorem countsOf_append (caller : Nat) (l l' : List Visit) :
    countsOf caller (l ++ l') = countsOf caller l ++ countsOf caller l' := by
  simp only [countsOf, List.filter_append, List.map_append]

theorem countsOf_visits (caller : Nat) (p : Procedure Action.Reply α) :
    countsOf caller (visits es stop caller p s) =
      ((p.visitsUntil (Action.performAmid es) stop s).map Prod.fst).filter counts := by
  simp [countsOf, visits, List.filter_map, Function.comp_def]

theorem countsOf_visits_of_ne {caller other : Nat} (h : other ≠ caller)
    (p : Procedure Action.Reply α) : countsOf caller (visits es stop other p s) = [] := by
  simp [countsOf, visits, List.filter_map, Function.comp_def, h]

/-- The actions of an event have their places, and no caller counts the index twice. The states noted are
those of the worlds they are noted in. Behind it the lock is free and the flag lowered. -/
structure Sound (l : List Visit) (before after : CacheWorld) : Prop where
  proper : ∀ v ∈ l, Proper v.action v.world
  once : ∀ caller, Once (countsOf caller l)
  observed : after.observed = before.observed ++ noted l
  stands : Stands false false after

theorem proper_visits {Q : α → CacheWorld → Prop} {p : Procedure Action.Reply α}
    (hp : Proceeds Q p s.1) (caller : Nat) :
    ∀ v ∈ visits es stop caller p s, Proper v.action v.world :=
  List.forall_mem_map.mpr (hp.runUntil es stop).1

theorem sound_call {c : Call α} (hs : Settles c) (hc : CountsOnce c) (h : Stands false false s.1) :
    Sound (visits es never 0 c.run s) s.1 (performAmid es c s).2.1 := by
  have hp := hs.proceeds h
  refine ⟨proper_visits hp 0, fun caller => ?_, observed_run es 0 c.run s, hp.run es⟩
  by_cases hcaller : 0 = caller
  · subst hcaller
    rw [countsOf_visits]
    exact hc.run (Action.performAmid es) s
  · rw [countsOf_visits_of_ne hcaller]
    exact .inl rfl

section Together

/-- A reader that comes while the index is about to be counted looks, and then waits or fails. It leaves the
flag and the lock to the one who counts, and goes on when the lock is free again. -/
theorem reader_waits (h : Proper .count s.1) (es : Nat → Happening) :
    Undisturbed s.1 (getTags.run.runUntil (Action.performAmid es) waiting s).2.1 ∧
      getTags.run.visitsUntil (Action.performAmid es) waiting s = [(.contains, s)] ∧
      ∀ w, Stands false false w → Proceeds (fun _ => Stands false false)
        (getTags.run.runUntil (Action.performAmid es) waiting s).1 w := by
  obtain ⟨hlocked, -, habsent⟩ := h
  set w := s.1.after (es s.2)
  have hlook := (undisturbed_after s.1 (es s.2)).trans (undisturbed_contains w)
  have hperform : Action.performAmid es .contains s = (w.contains.1, w.contains.2, s.2 + 1) := rfl
  rw [run_getTags]
  rcases contains_cases w with e | ⟨text, -, e⟩
  · have hfound : holds w = false := (undisturbed_after s.1 (es s.2)).absent habsent
    have hwaits : waiting .acquire (looked w, s.2 + 1) = true := hlocked
    have hrest : Phase.lock.rest.run.runUntil (Action.performAmid es) waiting (looked w, s.2 + 1) =
        (Phase.lock.rest.run, looked w, s.2 + 1) := runUntil_of_stop hwaits
    have hvisits : Phase.lock.rest.run.visitsUntil (Action.performAmid es) waiting
        (looked w, s.2 + 1) = [] := visitsUntil_of_stop hwaits
    rw [e, hfound] at hperform
    rw [e] at hlook
    rw [runUntil_of_perform rfl hperform, visitsUntil_of_perform rfl hperform]
    dsimp only
    rw [hrest, hvisits]
    exact ⟨hlook, rfl, fun v hv => settles_rest_lock.proceeds hv⟩
  · rw [e] at hperform hlook
    rw [runUntil_of_perform rfl hperform, visitsUntil_of_perform rfl hperform]
    exact ⟨hlook, rfl, fun v hv => hv⟩

theorem observed_togetherAmid :
    (togetherAmid es s).2.1.observed = s.1.observed ++ noted (togetherVisits es s) := by
  have h₁ : (firstPart es s).2.1.observed = s.1.observed ++ _ :=
    observed_runUntil es atCount 0 getTags.run s
  have h₂ : (secondPart es s).2.1.observed = (firstPart es s).2.1.observed ++ _ :=
    observed_runUntil es waiting 1 getTags.run (firstPart es s).2
  have h₃ : (firstEnd es s).2.1.observed = (secondPart es s).2.1.observed ++ _ :=
    observed_run es 0 (firstPart es s).1 (secondPart es s).2
  have h₄ : (secondEnd es s).2.1.observed = (firstEnd es s).2.1.observed ++ _ :=
    observed_run es 1 (secondPart es s).1 (firstEnd es s).2
  rw [togetherAmid, togetherVisits]
  simp only [noted_append, ← List.append_assoc]
  rw [← h₁, ← h₂, ← h₃, ← h₄]

theorem once_togetherVisits (caller : Nat) : Once (countsOf caller (togetherVisits es s)) := by
  have h₁ : (firstPart es s).1.Forms counts _ :=
    countsOnce_getTags.runUntil (Action.performAmid es) atCount s
  have h₂ : (secondPart es s).1.Forms counts _ :=
    countsOnce_getTags.runUntil (Action.performAmid es) waiting (firstPart es s).2
  have h₃ := h₁.run (Action.performAmid es) (secondPart es s).2
  have h₄ := h₂.run (Action.performAmid es) (firstEnd es s).2
  simp only [togetherVisits, countsOf_append]
  match caller with
  | 0 =>
    rw [countsOf_visits_of_ne one_ne_zero, countsOf_visits_of_ne one_ne_zero, countsOf_visits,
      countsOf_visits]
    simpa using h₃
  | 1 =>
    rw [countsOf_visits_of_ne zero_ne_one, countsOf_visits_of_ne zero_ne_one, countsOf_visits,
      countsOf_visits]
    simpa using h₄
  | k + 2 =>
    have h0 : 0 ≠ k + 2 := by omega
    have h1 : 1 ≠ k + 2 := by omega
    simp only [countsOf_visits_of_ne h0, countsOf_visits_of_ne h1]
    exact .inl rfl

variable (h : Stands false false s.1) (es : Nat → Happening)
include h

theorem firstPart_proceeds :
    (∀ v ∈ visits es atCount 0 getTags.run s, Proper v.action v.world) ∧
      Proceeds (fun _ => Stands false false) (firstPart es s).1 (firstPart es s).2.1 :=
  ⟨proper_visits (settles_getTags.proceeds h) 0,
    ((settles_getTags.proceeds h).runUntil es atCount).2⟩

/-- The second of two readers leaves the first one to its count, and both go on. -/
theorem secondPart_proceeds :
    (∀ v ∈ visits es waiting 1 getTags.run (firstPart es s).2, Proper v.action v.world) ∧
      (∀ v ∈ visits es never 0 (firstPart es s).1 (secondPart es s).2, Proper v.action v.world) ∧
      Proceeds (fun _ => Stands false false) (secondPart es s).1 (firstEnd es s).2.1 := by
  have hfirst := (firstPart_proceeds h es).2
  rcases runUntil_cases (Action.performAmid es) atCount getTags.run s with
    ⟨r, hdone⟩ | ⟨a, next, hact, hstop⟩
  -- The first one has ended, and the second one comes into a world at rest.
  · change (firstPart es s).1 = done r at hdone
    unfold firstEnd
    rw [hdone] at hfirst ⊢
    have hsecond := settles_getTags.proceeds hfirst
    exact ⟨proper_visits hsecond 1, List.forall_mem_nil _, (hsecond.runUntil es waiting).2⟩
  -- The first one is about to count, and the second one waits for it.
  · change (firstPart es s).1 = act a next at hact
    obtain rfl : a = .count := of_decide_eq_true hstop
    unfold firstEnd
    rw [hact] at hfirst ⊢
    obtain ⟨hundisturbed, hvisits, hrest⟩ := reader_waits (hfirst _ (.refl _)).1 es
    have hfirst' := hfirst.undisturbed hundisturbed
    refine ⟨?_, proper_visits hfirst' 0, hrest _ (hfirst'.run es)⟩
    rw [visits, hvisits]
    exact List.forall_mem_singleton.mpr trivial

theorem sound_together : Sound (togetherVisits es s) s.1 (togetherAmid es s).2.1 := by
  obtain ⟨hsecond, hfirst', hsecond'⟩ := secondPart_proceeds h es
  refine ⟨?_, once_togetherVisits, observed_togetherAmid, hsecond'.run es⟩
  unfold togetherVisits
  simp only [List.forall_mem_append]
  exact ⟨⟨⟨(firstPart_proceeds h es).1, hsecond⟩, hfirst'⟩, proper_visits hsecond' 1⟩

end Together

theorem sound_play (h : Stands false false s.1) (es : Nat → Happening) (e : CacheEvent) :
    Sound (e.play es s).1 s.1 (e.play es s).2.1 := by
  cases e with
  | together => exact sound_together h es
  | direct change =>
    exact ⟨List.forall_mem_nil _, fun _ => .inl rfl, (List.append_nil _).symm,
      h.hydrating, h.locked⟩
  | ask r =>
    cases r with
    | tags => exact sound_call settles_getTags countsOnce_getTags h
    | add file tag => exact sound_call (settles_addTag file tag) (countsOnce_addTag file tag) h
    | remove file tag =>
      exact sound_call (settles_removeTag file tag) (countsOnce_removeTag file tag) h
    | flush => exact sound_call settles_flush countsOnce_flush h
    | state =>
      have hstands := (h.undisturbed (undisturbed_after s.1 (es s.2))).undisturbed
        (undisturbed_contains (s.1.after (es s.2)))
      refine ⟨List.forall_mem_singleton.mpr trivial, fun caller => .inl ?_, ?_, hstands⟩
      · simp [countsOf, CacheEvent.play, CacheRequest.visits, counts, List.filter_cons, apply_ite]
      · exact perform_observed .contains (s.1.after (es s.2))

theorem sound_session (es : Nat → Happening) (events : List CacheEvent)
    (h : Stands false false s.1) :
    ∀ step ∈ session es events s, Sound step.visits step.before step.after := by
  -- Every event starts where the one before it ended, with the lock free and the flag lowered.
  induction events generalizing s with
  | nil => exact List.forall_mem_nil _
  | cons e rest ih =>
    have hplay := sound_play h es e
    exact List.forall_mem_cons.mpr ⟨hplay, ih hplay.stands⟩

/-! ## The state -/

theorem state_cases (w : CacheWorld) :
    (w.contains.1 = .ok (holds w) ∧ w.state.1 = .ok
      (if holds w then .hydrated else if w.hydrating then .hydrating else .uninitialized)) ∨
      ∃ text, (CacheWorld.takeFault .contains w.faults).1 = some text ∧
        w.contains.1 = .error (.other text) ∧ w.state.1 = .error (.other text) := by
  unfold CacheWorld.state
  rcases contains_cases w with e | ⟨text, ht, e⟩
  · rw [e]
    exact .inl ⟨rfl, rfl⟩
  · rw [e]
    exact .inr ⟨text, ht, rfl, rfl⟩

/-- **The cache is never stuck in its hydration, and never counts the index needlessly**, whatever is asked,
changed past it, or fails. Behind every event the state tells whether the counts are there, so long as the
look at them does not fail. The index is counted while they are missing, and the state says that they are
being taken, unless the look fails; a caller counts it once at most. -/
theorem session_never_sticks (es : Nat → Happening) (events : List CacheEvent) {w : CacheWorld}
    (hflag : w.hydrating = false) (hlock : w.locked = false) :
    ∀ step ∈ session es events (w, 0),
      (∀ e found, (step.after.after e).contains.1 = .ok found → (step.after.after e).state.1 =
        .ok (if holds (step.after.after e) then .hydrated else .uninitialized)) ∧
      step.after.locked = false ∧
      (∀ v ∈ step.visits, v.action = .acquire → v.world.locked = false) ∧
      (∀ v ∈ step.visits, v.action = .observe ∨ v.action = .count → holds v.world = false ∧
        (v.world.state.1 = .ok .hydrating ∨
          ∃ text, (CacheWorld.takeFault .contains v.world.faults).1 = some text ∧
            v.world.state.1 = .error (.other text))) ∧
      (∀ caller, countsOf caller step.visits = [] ∨
        countsOf caller step.visits = [.observe, .count]) ∧
      step.after.observed = step.before.observed ++ noted step.visits := by
  intro step hstep
  have hsound := sound_session es events ⟨hflag, hlock⟩ step hstep
  refine ⟨fun e found hfound => ?_, hsound.stands.locked, fun v hv ha => ?_, fun v hv ha => ?_,
    hsound.once, hsound.observed⟩
  · have hlowered : (step.after.after e).hydrating = false := hsound.stands.hydrating
    rcases state_cases (step.after.after e) with ⟨-, hstate⟩ | ⟨text, -, hfailed, -⟩
    · rw [hstate, hlowered]
      rfl
    · rw [hfailed] at hfound
      cases hfound
  · have hproper := hsound.proper v hv
    rw [ha] at hproper
    exact hproper
  · have hproper : v.world.locked = true ∧ v.world.hydrating = true ∧ holds v.world = false := by
      have h := hsound.proper v hv
      rcases ha with ha | ha <;> rw [ha] at h <;> exact h
    refine ⟨hproper.2.2, ?_⟩
    rcases state_cases v.world with ⟨-, hstate⟩ | ⟨text, hfault, -, hstate⟩
    · rw [hproper.2.1, hproper.2.2] at hstate
      exact .inl hstate
    · exact .inr ⟨text, hfault, hstate⟩

/-- A file with a tag, counts that are kept for an hour, and a failure to write them to come. -/
def failingWrite : CacheWorld where
  index := ⟨[("a", [⟨.auto, "pdf"⟩])]⟩
  ttl := some 3600000
  faults := [(.writeAll, "connection reset")]

/-- The first of two readers fails to write the counts, the second one writes them, and a third one finds
them. -/
theorem session_never_sticks_failed_write :
    failingWrite.hydrating = false ∧ failingWrite.locked = false ∧
      ((session (fun _ => {}) [.together, .ask .tags] (failingWrite, 0)).map fun step =>
        (countsOf 0 step.visits, countsOf 1 step.visits, step.after.state.1)) =
        [([.observe, .count], [.observe, .count], .ok .hydrated), ([], [], .ok .hydrated)] ∧
      ∀ step ∈ session (fun _ => {}) [.together, .ask .tags] (failingWrite, 0),
        step.after.locked = false ∧ ∀ v ∈ step.visits, v.action = .count → holds v.world = false := by
  refine ⟨rfl, rfl, by decide +kernel, fun step hstep => ?_⟩
  obtain ⟨-, hlock, -, hcount, -, -⟩ :=
    session_never_sticks (fun _ => {}) [.together, .ask .tags] rfl rfl step hstep
  exact ⟨hlock, fun v hv ha => (hcount v hv (.inr ha)).1⟩

end Cache

end DocSearch
