import DocSearch.Backend.Call
import DocSearch.Cache.Basic
import DocSearch.Calendar
import DocSearch.Token.Basic
/-!
# What the service does while it answers a request

* `Step` — one step: an action of the tag cache, a call of the search backend, a look at the clock,
  or the draw of a nonce.
* `ServiceWorld` — all that requests share, and the backend calls made so far. `Step.perform` says
  what a step does to it.
-/

namespace DocSearch

/-- One step of the service. -/
inductive Step where
  | cache (a : Action)
  | backend (c : BackendCall)
  | clock
  | nonce

namespace Step

/-- What a step comes back with. -/
abbrev Reply : Step → Type
  | cache a => a.Reply
  | backend c => c.Reply
  | clock => Instant
  | nonce => Nonce

end Step

/-- All that requests share. -/
structure ServiceWorld where
  cache : CacheWorld := {}
  /-- What the search backend answers to its `n`-th call. -/
  backend : (n : Nat) → (c : BackendCall) → c.Reply
  /-- The calls of the search backend so far. -/
  calls : List BackendCall := []
  /-- The time, which stands still. -/
  clock : Instant
  /-- The nonces to come, none of them given twice. -/
  nonces : Nat → Nonce := Nonce.ofNat
  /-- How many nonces are used up. -/
  drawn : Nat := 0

namespace Step

/-- What a step does. -/
def perform : (s : Step) → ServiceWorld → s.Reply × ServiceWorld
  | cache a, w =>
    let (r, c) := a.perform w.cache
    (r, { w with cache := c })
  | backend c, w => (w.backend w.calls.length c, { w with calls := w.calls ++ [c] })
  | clock, w => (w.clock, w)
  | nonce, w => (w.nonces w.drawn, { w with drawn := w.drawn + 1 })

end Step

end DocSearch
