import Mathlib
import DocSearch.Proofs.Cache.Listing
import DocSearch.Proofs.Cache.Pool
import DocSearch.Proofs.Cache.Run
import DocSearch.Proofs.Store
/-!
# Two readers at once

The second of two readers comes while the first one is about to count the index. It has seen that
the counts are missing, waits for the lock, and looks again behind it.

* `Sees`: no look whether the counts are there is about to fail; every action keeps this.
* `runUntil_count`, `runUntil_waits`: how far both readers come before the index is counted.
* `runUntil_of_holds`: a reader who finds the counts comes to its end.
* **`run_rest_lock`**: a reader who had to wait reads as if it came only now.
* **`together_eq_in_a_row`**: two readers at once are as good as two readers in a row.
-/

namespace DocSearch

namespace Cache

open Procedure

variable {w : CacheWorld}

/-- The world behind a look whether the counts are there. -/
def looked (w : CacheWorld) : CacheWorld := { w with store := w.store.purge w.now }

/-- The counts are there. -/
def holds (w : CacheWorld) : Bool := (w.store.contains w.now tagsKey).1

@[simp] theorem holds_looked (w : CacheWorld) : holds (looked w) = holds w := by
  simp only [holds, looked, Store.contains, Store.purge_purge]

/-- Looks never fail. -/
def Sees (w : CacheWorld) : Prop := ∀ f ∈ w.faults, f.1 ≠ .contains

theorem Sees.contains (hw : Sees w) : w.contains = (.ok (holds w), looked w) :=
  calling_of_forall_ne hw

theorem Sees.perform_contains (hw : Sees w) :
    Action.perform .contains w = (.ok (holds w), looked w) := hw.contains

theorem Sees.step (a : Action) (hw : Sees w) : Sees (a.perform w).2 := by
  have hcall : ∀ {α : Type} (p : FaultPoint)
      (g : CacheWorld → Except ProviderError α × CacheWorld), (∀ w, (g w).2.faults = w.faults) →
        Sees (w.calling p g).2 := by
    intro α p g hg
    rcases calling_cases w p g with e | ⟨text, rest, hr, e⟩
    · rw [e]
      intro f hf
      exact hw f (hg w ▸ hf)
    · rw [e]
      exact fun f hf => hw f (hr f hf)
  cases a with
  | contains => rw [hw.perform_contains]; exact hw
  | acquire | release | flag up => exact hw
  | observe =>
    change Sees w.state.2
    rw [CacheWorld.state, hw.contains]
    exact hw
  | count | writeAll rows | readAll | adjust field delta | delete | add file tag | remove file tag =>
    exact hcall _ _ fun _ => rfl

theorem Sees.perform {α : Type} (hw : Sees w) (c : Call α) : Sees (perform c w).2 :=
  run_keeps (fun a _ h => Sees.step a h) c.run hw

/-! ## The steps of a reader -/

theorem run_getTags : getTags.run = .act .contains fun r => match r with
    | .ok true => Cache.read.run
    | .ok false => Phase.lock.rest.run
    | .error e => .done (.error e) :=
  congrArg (act Action.contains) (funext fun r => by rcases r with e | _ | _ <;> rfl)

theorem rest_lookAgain : Phase.lookAgain.rest.run = .act .contains fun r => match r with
    | .ok true => Phase.unlock.rest.run
    | .ok false => Phase.raise.rest.run
    | .error e => (Phase.locked (throw e)).run :=
  congrArg (act Action.contains) (funext fun r => by rcases r with e | _ | _ <;> rfl)

theorem rest_lock : Phase.lock.rest.run = .act .acquire fun _ => Phase.lookAgain.rest.run := rfl

theorem rest_unlock : Phase.unlock.rest.run = .act .release fun _ => Cache.read.run := rfl

/-- The world of a reader that has looked and has the lock. -/
def inside (w : CacheWorld) : CacheWorld :=
  { w with store := w.store.purge w.now, locked := true }

/-- The world of a reader that is about to count the index. -/
def counting (w : CacheWorld) : CacheWorld :=
  { inside w with hydrating := true, observed := w.observed ++ [.ok .hydrating] }

theorem looked_inside (w : CacheWorld) : looked (inside w) = inside w := by
  simp only [looked, inside, Store.purge_purge]

theorem looked_counting (w : CacheWorld) : looked (counting w) = counting w := by
  simp only [looked, counting, inside, Store.purge_purge]

theorem holds_inside (w : CacheWorld) : holds (inside w) = holds w := holds_looked w

theorem holds_counting (w : CacheWorld) : holds (counting w) = holds w := holds_looked w

section Absent

variable (hw : Sees w) (h : holds w = false)
include hw h

theorem perform_observe_inside :
    Action.perform .observe { inside w with hydrating := true } = ((), counting w) := by
  have hn : Sees { inside w with hydrating := true } := hw
  have hh : holds { inside w with hydrating := true } = false := (holds_looked w).trans h
  have hl : looked { inside w with hydrating := true } = { inside w with hydrating := true } := by
    simp only [looked, inside, Store.purge_purge]
  rw [Action.perform, CacheWorld.state, hn.contains, hh, hl]
  rfl

theorem runUntil_count :
    getTags.run.runUntil Action.perform (fun a _ => a = .count) w =
      (Phase.count.rest.run, counting w) := by
  have hs : Sees (inside w) := hw
  have hraise : Phase.raise.rest.run = .act (.flag true) fun _ => Phase.note.rest.run := rfl
  have hnote : Phase.note.rest.run = .act .observe fun _ => Phase.count.rest.run := rfl
  have ha : Action.perform .acquire (looked w) = ((), inside w) := rfl
  have hf : Action.perform (.flag true) (inside w) = ((), { inside w with hydrating := true }) := rfl
  have ho := perform_observe_inside hw h
  rw [run_getTags, runUntil_of_perform rfl hw.perform_contains, h, rest_lock,
    runUntil_of_perform rfl ha, rest_lookAgain, runUntil_of_perform rfl hs.perform_contains, holds_inside, h, looked_inside,
    hraise, runUntil_of_perform rfl hf, hnote, runUntil_of_perform rfl ho]
  exact runUntil_of_stop rfl

theorem runUntil_waits :
    getTags.run.runUntil Action.perform Action.waits (counting w) =
      (Phase.lock.rest.run, counting w) := by
  have hs : Sees (counting w) := hw
  rw [run_getTags, runUntil_of_perform rfl hs.perform_contains, holds_counting, h, looked_counting]
  exact runUntil_of_stop rfl

end Absent

section Present

variable (hw : Sees w) (h : holds w = true)
include hw h

theorem run_of_holds : getTags.run.run Action.perform w =
    Cache.read.run.run Action.perform (looked w) := by
  rw [run_getTags, run_of_perform hw.perform_contains, h]

theorem runUntil_of_holds {stop : Action → CacheWorld → Bool} (hc : stop .contains w = false)
    (hr : stop .readAll (looked w) = false) : getTags.run.runUntil Action.perform stop w =
      (.done (perform getTags w).1, (perform getTags w).2) := by
  unfold perform
  rw [run_of_holds hw h, run_getTags, runUntil_of_perform hc hw.perform_contains, h, run_read,
    runUntil_of_perform hr rfl, run_of_perform rfl]
  rfl

end Present

/-- **Behind the lock a reader looks again**, so it reads as if it came only now. -/
theorem run_rest_lock (hw : Sees w) (hl : w.locked = false) :
    Phase.lock.rest.run.run Action.perform w = getTags.run.run Action.perform w := by
  have ha : Action.perform .acquire w = ((), { w with locked := true }) := rfl
  have hw₁ : Sees { w with locked := true } := hw
  have h₁ : looked { w with locked := true } = inside w := rfl
  rw [rest_lock, run_of_perform ha, rest_lookAgain, run_of_perform hw₁.perform_contains, h₁]
  cases h : holds w with
  | true =>
    have hh : holds { w with locked := true } = true := h
    have hr : Action.perform .release (inside w) = ((), looked w) := by
      simp only [Action.perform, inside, looked, ← hl]
    rw [run_of_holds hw h, hh, rest_unlock, run_of_perform hr]
  | false =>
    have hh : holds { w with locked := true } = false := h
    have hw₂ : Sees (inside w) := hw
    have ha' : Action.perform .acquire (looked w) = ((), inside w) := rfl
    rw [run_getTags, run_of_perform hw.perform_contains, h, hh, rest_lock, run_of_perform ha',
      rest_lookAgain, run_of_perform hw₂.perform_contains, holds_inside, h, looked_inside]

theorem readAll_keeps (v : CacheWorld) :
    (Action.perform .readAll v).2.locked = v.locked ∧
      holds (Action.perform .readAll v).2 = holds v := by
  rw [Action.perform]
  rcases calling_cases v .readAll fun w => (.ok (w.store.getAll w.now tagsKey).1,
    { w with store := (w.store.getAll w.now tagsKey).2 }) with e | ⟨text, rest, -, e⟩
  · rw [e]
    exact ⟨rfl, holds_looked v⟩
  · rw [e]
    exact ⟨rfl, rfl⟩

theorem locked_run_locked (c : Call Unit) (w : CacheWorld) :
    ((Phase.locked c).run.run Action.perform w).2.locked = false := by
  have hclosing : ((Phase.closing .release c).run.run Action.perform w).2.locked = false := by
    rw [Phase.closing, run_exceptT_bind, run_exceptT_lift]
    rfl
  have hread : ∀ v : CacheWorld, v.locked = false →
      (Cache.read.run.run Action.perform v).2.locked = false := by
    intro v hv
    rw [run_read]
    exact (readAll_keeps v).1.trans hv
  rw [Phase.locked, run_exceptT_bind]
  cases ((Phase.closing .release c).run.run Action.perform w).1 with
  | ok _ => exact hread _ hclosing
  | error e => exact hclosing

/-- What the second of two readers does: up to the lock, and behind it when the first has ended. -/
def secondSteps (w : CacheWorld) : List ((a : Action) × a.Reply) :=
  let (first, w) := getTags.run.runUntil Action.perform (fun a _ => a = .count) w
  let (second, w') := getTags.run.runUntil Action.perform Action.waits w
  getTags.run.traceUntil Action.perform Action.waits w ++
    second.trace Action.perform (perform first w').2

theorem holds_of_holds (hw : Sees w) (h : holds w = true) :
    holds (perform getTags w).2 = true := by
  unfold perform
  rw [run_of_holds hw h, run_read]
  exact (readAll_keeps (looked w)).2.trans ((holds_looked w).trans h)

theorem perform_rest_count (hw : Sees w) (h : holds w = false) :
    perform Phase.count.rest (counting w) = perform getTags w := by
  have hr : (getTags.run.runUntil Action.perform (fun a _ => a = .count) w).1.run Action.perform
      (getTags.run.runUntil Action.perform (fun a _ => a = .count) w).2 =
        getTags.run.run Action.perform w := run_runUntil getTags.run w
  rwa [runUntil_count hw h] at hr

theorem not_count_of_holds (hw : Sees w) (h : holds w = true) :
    ∀ step ∈ getTags.run.traceUntil Action.perform Action.waits w, step.1 ≠ .count := by
  rw [run_getTags, traceUntil_of_perform rfl hw.perform_contains, h, run_read,
    traceUntil_of_perform rfl rfl]
  simp [traceUntil]

/-- A reader who had to wait does not count the index when the counts are there. -/
theorem not_count_behind_lock (hw : Sees w) (h : holds w = true) :
    ∀ step ∈ Phase.lock.rest.run.trace Action.perform w, step.1 ≠ .count := by
  have hi : Sees { w with locked := true } := hw
  have hh : holds { w with locked := true } = true := h
  have ha : Action.perform .acquire w = ((), { w with locked := true }) := rfl
  rw [rest_lock, trace_of_perform ha, rest_lookAgain, trace_of_perform hi.perform_contains, hh,
    rest_unlock, trace_of_perform rfl, run_read, trace_of_perform rfl]
  simp [trace]

/-- **Two readers at once are as good as two readers in a row**, with the same results and in the
same world behind them, whatever the store holds and however long counts are kept there, and
whatever fails but a look. The second one does not count the index if the first one has left counts
behind. -/
theorem together_eq_in_a_row (hw : ∀ f ∈ w.faults, f.1 ≠ .contains) :
    together w = (((perform getTags w).1, (perform getTags (perform getTags w).2).1),
      (perform getTags (perform getTags w).2).2) ∧
    (holds (perform getTags w).2 = true → ∀ step ∈ secondSteps w, step.1 ≠ .count) := by
  have hs : Sees w := hw
  have hs' : Sees (perform getTags w).2 := hs.perform getTags
  cases h : holds w with
  | true =>
    have h' := holds_of_holds hs h
    constructor
    · rw [together, runUntil_of_holds hs h rfl rfl]
      dsimp only
      rw [runUntil_of_holds hs' h' rfl rfl]
      rfl
    · intro _
      rw [secondSteps, runUntil_of_holds hs h rfl rfl]
      dsimp only
      rw [runUntil_of_holds hs' h' rfl rfl, trace, List.append_nil]
      exact not_count_of_holds hs' h'
  | false =>
    have hfirst := perform_rest_count hs h
    have hl : (perform getTags w).2.locked = false := by
      rw [← hfirst]
      exact locked_run_locked _ _
    have hsecond : perform Phase.lock.rest (perform getTags w).2 =
        perform getTags (perform getTags w).2 := run_rest_lock hs' hl
    constructor
    · rw [together, runUntil_count hs h]
      dsimp only
      rw [runUntil_waits hs h]
      change (((perform Phase.count.rest (counting w)).1,
        (perform Phase.lock.rest (perform Phase.count.rest (counting w)).2).1),
        (perform Phase.lock.rest (perform Phase.count.rest (counting w)).2).2) = _
      rw [hfirst, hsecond]
    · intro h'
      have hc : Sees (counting w) := hw
      rw [secondSteps, runUntil_count hs h]
      dsimp only
      rw [runUntil_waits hs h]
      change ∀ step ∈ getTags.run.traceUntil Action.perform Action.waits (counting w) ++
        Phase.lock.rest.run.trace Action.perform (perform Phase.count.rest (counting w)).2, _
      rw [hfirst, run_getTags, traceUntil_of_perform rfl hc.perform_contains, holds_counting, h,
        rest_lock, traceUntil_of_stop rfl, ← rest_lock, List.cons_append, List.nil_append,
        List.forall_mem_cons]
      refine ⟨?_, not_count_behind_lock hs' h'⟩
      intro he
      cases he

/-- A file with a tag, counts that are kept for an hour, and a failure to read them to come. -/
def failingRead : CacheWorld where
  index := ⟨[("a", [⟨.auto, "pdf"⟩])]⟩
  ttl := some 3600000
  faults := [(.readAll, "connection reset")]

/-- The first reader fails behind its hydration, and the second one reads what is there. -/
theorem together_eq_in_a_row_failed_read :
    (∀ f ∈ failingRead.faults, f.1 ≠ .contains) ∧ holds (perform getTags failingRead).2 = true ∧
      (together failingRead).1 = (.error (.other "connection reset"), .ok [⟨"pdf", .auto, 1⟩]) ∧
      ∀ step ∈ secondSteps failingRead, step.1 ≠ .count := by
  have hf : ∀ f ∈ failingRead.faults, f.1 ≠ .contains := by decide
  have hh : holds (perform getTags failingRead).2 = true := by decide +kernel
  obtain ⟨ht, hc⟩ := together_eq_in_a_row hf
  refine ⟨hf, hh, ?_, hc hh⟩
  rw [ht]
  decide +kernel

end Cache

end DocSearch
