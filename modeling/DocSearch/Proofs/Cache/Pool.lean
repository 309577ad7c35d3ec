import Mathlib
import DocSearch.Cache.Basic
/-!
# Calls of the cache at the same time

Calls that run at the same time take turns: in each turn one of them performs its next action.

* `Pool`, `Pool.turn`, `Pool.run`: a world with what is left of some calls, one turn, and a row of
  turns. A call that has ended, or has to wait for the lock, lets its turn pass.
* `Direction`: writers that all add tags, or all remove them.
* `Phase`: the places at which such a call can be, `Phase.rest`, what is left of it from there, and
  `Phase.step`, its next action in a world in which nothing fails.
* **`advance_rest`**: calls go through their phases.
-/

namespace DocSearch

/-- Performs the next action of a procedure, unless there is none or it has to wait. -/
def Procedure.advance {A α W : Type} {Reply : A → Type} (perform : (a : A) → W → Reply a × W)
    (waits : A → W → Bool) : Procedure Reply α → W → Procedure Reply α × W
  | done a, w => (done a, w)
  | act a next, w =>
    if waits a w then (act a next, w) else (next (perform a w).1, (perform a w).2)

/-- There is nothing left to do. -/
def Procedure.isDone {A α : Type} {Reply : A → Type} : Procedure Reply α → Bool
  | done _ => true
  | act _ _ => false

theorem Procedure.isDone_iff {A α : Type} {Reply : A → Type} {p : Procedure Reply α} :
    p.isDone = true ↔ ∃ a, p = .done a := by
  cases p with
  | done a => exact ⟨fun _ => ⟨a, rfl⟩, fun _ => rfl⟩
  | act a next => exact ⟨nofun, fun ⟨_, h⟩ => nomatch h⟩

/-- A world with what is left of some calls. -/
structure Pool where
  world : CacheWorld
  calls : List (Cache.Call (List TagCount))

/-- Some time passes, and then the call at a place may go on. -/
structure Turn where
  place : Nat
  elapsed : Nat := 0

namespace Pool

/-- The world after some time. -/
def later (w : CacheWorld) (elapsed : Nat) : CacheWorld := { w with now := w.now + elapsed }

/-- One turn. -/
def turn (p : Pool) (t : Turn) : Pool :=
  let w := later p.world t.elapsed
  match p.calls[t.place]? with
  | none => ⟨w, p.calls⟩
  | some c =>
    let (c, w) := c.run.advance Action.perform Action.waits w
    ⟨w, p.calls.set t.place (ExceptT.mk c)⟩

/-- A row of turns. -/
def run (p : Pool) (turns : List Turn) : Pool := turns.foldl turn p

/-- All calls have ended. -/
def Ended (p : Pool) : Prop := ∀ c ∈ p.calls, ∃ r, c.run = .done r

instance (p : Pool) : Decidable p.Ended :=
  decidable_of_iff (∀ c ∈ p.calls, c.run.isDone = true)
    (forall₂_congr fun _ _ => Procedure.isDone_iff)

end Pool

/-- What the writers do: they all add tags, or they all remove them. -/
inductive Direction where
  | adding
  | removing
deriving DecidableEq, Repr, Inhabited

namespace Direction

/-- By how much a change moves the count of its tag. -/
def delta : Direction → Int
  | adding => 1
  | removing => -1

/-- What a writer asks of the index. -/
def change : Direction → String → Tag → TagIndex → Except ProviderError TagChange × TagIndex
  | adding, file, tag, x => x.add file tag
  | removing, file, tag, x => x.remove file tag

/-- The call of a writer. -/
def call : Direction → String → Tag → Cache.Call (List TagCount)
  | adding, file, tag => Cache.addTag file tag
  | removing, file, tag => Cache.removeTag file tag

end Direction

/-! ## The phases of a call -/

/-- What a call is about to do: to change a tag of a file in the index, and to move its count; to look
whether the counts are there, to take the lock and to look again; to raise the flag, to note the state of
the cache, to count the index, to write the counts and to lower the flag; to give the lock back, and to
read all counts. -/
inductive Phase where
  | change (d : Direction) (file : String) (tag : Tag)
  | move (d : Direction) (tag : Tag)
  | look
  | lock
  | lookAgain
  | raise
  | note
  | count
  | write (rows : List (String × String))
  | lower
  | unlock
  | read
  | ended (result : Except ProviderError (List TagCount))

namespace Phase

open Cache

/-- What is left of `between before after c` behind `before`. -/
def closing {α : Type} (after : Action) (c : Call α) : Call α := do
  let r ← ExceptT.lift c.run
  let _ ← always after
  ExceptT.mk (pure r)

/-- What is left of a hydration when it has the lock. -/
def locked (c : Call Unit) : Call (List TagCount) := do
  closing .release c
  Cache.read

/-- What is left of a call. -/
def rest : Phase → Call (List TagCount)
  | change d file tag => d.call file tag
  | move d tag => do
    let _ ← call (.ofAction (Action.adjust tag.cacheField d.delta))
    getTags
  | look => getTags
  | lock => do
    between .acquire .release do
      if ← isHydrated then pure ()
      else between (.flag true) (.flag false) fill
    Cache.read
  | lookAgain => locked do
    if ← isHydrated then pure ()
    else between (.flag true) (.flag false) fill
  | raise => locked (between (.flag true) (.flag false) fill)
  | note => locked (closing (.flag false) fill)
  | count => locked (closing (.flag false) do
    let counts ← call (.ofAction Action.count)
    if counts.isEmpty then pure ()
    else call (.ofAction (Action.writeAll (counts.map TagCount.toRow))))
  | write rows => locked (closing (.flag false) (call (.ofAction (Action.writeAll rows))))
  | lower => locked (closing (.flag false) (pure ()))
  | unlock => locked (pure ())
  | read => Cache.read
  | ended result => ExceptT.mk (.done result)

/-- The next action of a call, nothing failing, and the phase behind it. -/
def step : Phase → CacheWorld → Phase × CacheWorld
  | change d file tag, w =>
    (match (d.change file tag w.index).1 with
      | .ok .applied => move d tag
      | .ok .unchanged => look
      | .error e => ended (.error e),
      { w with index := (d.change file tag w.index).2 })
  | move d tag, w =>
    (match (w.store.adjust w.now tagsKey tag.cacheField d.delta).1 with
      | .ok _ => look
      | .error e => ended (.error e),
      { w with store := (w.store.adjust w.now tagsKey tag.cacheField d.delta).2 })
  | look, w =>
    (if (w.store.contains w.now tagsKey).1 then read else lock,
      { w with store := (w.store.contains w.now tagsKey).2 })
  | lock, w => if w.locked then (lock, w) else (lookAgain, { w with locked := true })
  | lookAgain, w =>
    (if (w.store.contains w.now tagsKey).1 then unlock else raise,
      { w with store := (w.store.contains w.now tagsKey).2 })
  | raise, w => (note, { w with hydrating := true })
  | note, w => (count, (Action.perform .observe w).2)
  | count, w =>
    (if w.index.counts.isEmpty then lower else write (w.index.counts.map TagCount.toRow), w)
  | write rows, w => (lower, { w with store := w.store.setAll w.now tagsKey rows w.ttl })
  | lower, w => (unlock, { w with hydrating := false })
  | unlock, w => (read, { w with locked := false })
  | read, w =>
    (ended (.ok (countsOfRows (w.store.getAll w.now tagsKey).1)),
      { w with store := (w.store.getAll w.now tagsKey).2 })
  | ended result, w => (ended result, w)

theorem calling_of_faults_eq_nil {α : Type} {w : CacheWorld} (hw : w.faults = []) (p : FaultPoint)
    (c : CacheWorld → Except ProviderError α × CacheWorld) : w.calling p c = c w := by
  rw [CacheWorld.calling, hw]
  rfl

theorem advance_act {A α W : Type} {Reply : A → Type} {perform : (a : A) → W → Reply a × W}
    {waits : A → W → Bool} {a : A} {next : Reply a → Procedure Reply α} {w w' : W} {r : Reply a}
    (hw : waits a w = false) (hp : perform a w = (r, w')) :
    (Procedure.act a next).advance perform waits w = (next r, w') := by
  rw [Procedure.advance, hw, hp]
  rfl

theorem advance_wait {A α W : Type} {Reply : A → Type} {perform : (a : A) → W → Reply a × W}
    {waits : A → W → Bool} {a : A} {next : Reply a → Procedure Reply α} {w : W}
    (hw : waits a w = true) : (Procedure.act a next).advance perform waits w = (.act a next, w) := by
  rw [Procedure.advance, hw]
  rfl

/-- **A call goes through its phases.** -/
theorem advance_rest {w : CacheWorld} (hw : w.faults = []) (ph : Phase) :
    ph.rest.run.advance Action.perform Action.waits w = ((ph.step w).1.rest.run, (ph.step w).2) := by
  have hlook : Action.perform .contains w =
      (.ok (w.store.contains w.now tagsKey).1,
        { w with store := (w.store.contains w.now tagsKey).2 }) := by
    rw [Action.perform, CacheWorld.contains, calling_of_faults_eq_nil hw]
  cases ph with
  | change d file tag =>
    cases d with
    | adding =>
      have hp : Action.perform (.add file tag) w =
          ((w.index.add file tag).1, { w with index := (w.index.add file tag).2 }) := by
        rw [Action.perform, calling_of_faults_eq_nil hw]
      refine (advance_act rfl hp).trans ?_
      rw [step, Direction.change]
      rcases (w.index.add file tag).1 with e | _ | _ <;> rfl
    | removing =>
      have hp : Action.perform (.remove file tag) w =
          ((w.index.remove file tag).1, { w with index := (w.index.remove file tag).2 }) := by
        rw [Action.perform, calling_of_faults_eq_nil hw]
      refine (advance_act rfl hp).trans ?_
      rw [step, Direction.change]
      rcases (w.index.remove file tag).1 with e | _ | _ <;> rfl
  | move d tag =>
    have hp : Action.perform (.adjust tag.cacheField d.delta) w =
        ((w.store.adjust w.now tagsKey tag.cacheField d.delta).1,
          { w with store := (w.store.adjust w.now tagsKey tag.cacheField d.delta).2 }) := by
      rw [Action.perform, calling_of_faults_eq_nil hw]
    refine (advance_act rfl hp).trans ?_
    rw [step]
    rcases (w.store.adjust w.now tagsKey tag.cacheField d.delta).1 with e | _ <;> rfl
  | look =>
    refine (advance_act rfl hlook).trans ?_
    rw [step]
    cases (w.store.contains w.now tagsKey).1 <;> rfl
  | lock =>
    rw [step]
    split_ifs with hl
    · exact advance_wait hl
    · exact advance_act (by simpa [Action.waits] using hl) rfl
  | lookAgain =>
    refine (advance_act rfl hlook).trans ?_
    rw [step]
    cases (w.store.contains w.now tagsKey).1 <;> rfl
  | raise => rfl
  | note => rfl
  | count =>
    have hp : Action.perform .count w = (.ok w.index.counts, w) := by
      rw [Action.perform, calling_of_faults_eq_nil hw]
    refine (advance_act rfl hp).trans ?_
    rw [step]
    cases w.index.counts <;> rfl
  | write rows =>
    have hp : Action.perform (.writeAll rows) w =
        (.ok (), { w with store := w.store.setAll w.now tagsKey rows w.ttl }) := by
      rw [Action.perform, calling_of_faults_eq_nil hw]
    exact advance_act rfl hp
  | lower => rfl
  | unlock => rfl
  | read =>
    have hp : Action.perform .readAll w = (.ok (w.store.getAll w.now tagsKey).1,
        { w with store := (w.store.getAll w.now tagsKey).2 }) := by
      rw [Action.perform, calling_of_faults_eq_nil hw]
    exact advance_act rfl hp
  | ended result => rfl

end Phase

end DocSearch
