import DocSearch.Store
import DocSearch.TagIndex
/-!
# What the tag cache does, one step at a time

* `CacheWorld` — the store, the index, the lock and the flag that the callers of the cache share, and
  the failures that are to come.
* `Action` — one step that nothing can come between: a call of the store or the index, or a move of
  the lock or the flag. `Action.perform` says what it does.
-/

namespace DocSearch

/-- The states of the tag cache. -/
inductive CacheState where
  | uninitialized
  | hydrating
  | hydrated
deriving DecidableEq, Repr, Inhabited

/-- The calls that may fail. -/
inductive FaultPoint where
  | contains
  | readAll
  | writeAll
  | adjust
  | delete
  | count
  | change
deriving DecidableEq, Repr, Inhabited

/-- The key of the hash that holds the counts. -/
def tagsKey : String := "tags"

/-- All that the callers of the tag cache share. -/
structure CacheWorld where
  store : Store := {}
  index : TagIndex := {}
  /-- How long the counts are kept, in the unit of the clock. -/
  ttl : Option Nat := none
  now : Nat := 0
  /-- The counts are being taken from the index. -/
  hydrating : Bool := false
  /-- Somebody holds the lock of the hydration. -/
  locked : Bool := false
  /-- The failures to come, with their texts. Each meets the next call of its point. -/
  faults : List (FaultPoint × String) := []
  /-- The state of the cache at the start of each count of the index. -/
  observed : List (Except ProviderError CacheState) := []
deriving Inhabited

namespace CacheWorld

/-- The failures less the first one of a point, and its text. -/
def takeFault (p : FaultPoint) : List (FaultPoint × String) →
    Option String × List (FaultPoint × String)
  | [] => (none, [])
  | (q, text) :: rest =>
    if p = q then (some text, rest)
    else
      let (found, rest) := takeFault p rest
      (found, (q, text) :: rest)

/-- Makes a call, unless a failure of its point is to come. -/
def calling {α : Type} (w : CacheWorld) (p : FaultPoint)
    (call : CacheWorld → Except ProviderError α × CacheWorld) :
    Except ProviderError α × CacheWorld :=
  match takeFault p w.faults with
  | (some text, rest) => (.error (.other text), { w with faults := rest })
  | (none, _) => call w

/-- The counts are there. -/
def contains (w : CacheWorld) : Except ProviderError Bool × CacheWorld :=
  w.calling .contains fun w =>
    let (found, s) := w.store.contains w.now tagsKey
    (.ok found, { w with store := s })

/-- The state of the cache. -/
def state (w : CacheWorld) : Except ProviderError CacheState × CacheWorld :=
  let (found, w) := w.contains
  (found.map fun found =>
    if found then .hydrated else if w.hydrating then .hydrating else .uninitialized, w)

end CacheWorld

/-- One step that nothing can come between. -/
inductive Action where
  /-- Asks whether the counts are there. -/
  | contains
  /-- Waits for the lock and takes it. -/
  | acquire
  /-- Gives the lock back. -/
  | release
  /-- Raises or lowers the flag of the hydration. -/
  | flag (up : Bool)
  /-- Notes the state of the cache. -/
  | observe
  /-- Counts the index. -/
  | count
  /-- Writes all counts. -/
  | writeAll (rows : List (String × String))
  /-- Reads all counts. -/
  | readAll
  /-- Moves one count. -/
  | adjust (field : String) (delta : Int)
  /-- Drops all counts. -/
  | delete
  /-- Gives a file a tag. -/
  | add (file : String) (tag : Tag)
  /-- Takes a tag from a file. -/
  | remove (file : String) (tag : Tag)
deriving DecidableEq, Repr, Inhabited

namespace Action

/-- What an action comes back with. -/
abbrev Reply : Action → Type
  | contains => Except ProviderError Bool
  | acquire | release | flag _ | observe => Unit
  | count => Except ProviderError (List TagCount)
  | writeAll _ | delete => Except ProviderError Unit
  | readAll => Except ProviderError (List (String × String))
  | adjust _ _ => Except ProviderError (Option Int)
  | add _ _ | remove _ _ => Except ProviderError TagChange

/-- What an action does. -/
def perform : (a : Action) → CacheWorld → a.Reply × CacheWorld
  | contains, w => w.contains
  | acquire, w => ((), { w with locked := true })
  | release, w => ((), { w with locked := false })
  | flag up, w => ((), { w with hydrating := up })
  | observe, w =>
    let (seen, w) := w.state
    ((), { w with observed := w.observed ++ [seen] })
  | count, w => w.calling .count fun w => (.ok w.index.counts, w)
  | writeAll rows, w => w.calling .writeAll fun w =>
      (.ok (), { w with store := w.store.setAll w.now tagsKey rows w.ttl })
  | readAll, w => w.calling .readAll fun w =>
      let (rows, s) := w.store.getAll w.now tagsKey
      (.ok rows, { w with store := s })
  | adjust field delta, w => w.calling .adjust fun w =>
      let (r, s) := w.store.adjust w.now tagsKey field delta
      (r, { w with store := s })
  | delete, w => w.calling .delete fun w =>
      (.ok (), { w with store := w.store.delete tagsKey })
  | add file tag, w => w.calling .change fun w =>
      let (r, x) := w.index.add file tag
      (r, { w with index := x })
  | remove file tag, w => w.calling .change fun w =>
      let (r, x) := w.index.remove file tag
      (r, { w with index := x })

/-- The action has to wait: it wants a lock that somebody holds. -/
def waits (a : Action) (w : CacheWorld) : Bool := a = acquire && w.locked

end Action

end DocSearch
