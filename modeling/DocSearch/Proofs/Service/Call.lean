import Mathlib
import DocSearch.Proofs.Procedure
import DocSearch.Service.Basic
/-!
# Runs of the calls of the service

* `Call.on`: how a call ends in a world, and the world that it leaves behind; one lemma for each call
  of one step, and `on_bind` for calls one after another.
* `on_caching`: a call of the tag cache changes the cache alone, as it would without the service.
* `clock_of_on`: the clock stands still.
* `operation?`: what a request asks for. **`respond_eq`**: the reply to it.
-/

namespace DocSearch.Service

variable {α β : Type} {w w' : ServiceWorld}

/-- How a call ends, and the world that it leaves behind. -/
def Call.on (c : Call α) (w : ServiceWorld) : Except ServiceError α × ServiceWorld :=
  c.run.run Step.perform w

/-! ## Single steps -/

@[simp] theorem on_pure (a : α) (w : ServiceWorld) : Call.on (pure a) w = (.ok a, w) := rfl

@[simp] theorem on_now (w : ServiceWorld) : now.on w = (.ok w.clock, w) := rfl

@[simp] theorem on_freshNonce (w : ServiceWorld) :
    freshNonce.on w = (.ok (w.nonces w.drawn), { w with drawn := w.drawn + 1 }) := rfl

@[simp] theorem on_ask (r : SearchRequest) (w : ServiceWorld) :
    (ask r).on w = ((w.backend w.calls.length (.search r)).mapError .ofProvider,
      { w with calls := w.calls ++ [.search r] }) := rfl

theorem on_bind (c : Call α) (f : α → Call β) (w : ServiceWorld) :
    (c >>= f).on w = match c.on w with
      | (.ok a, w') => (f a).on w'
      | (.error e, w') => (.error e, w') := by
  unfold Call.on
  rw [Procedure.run_exceptT_bind]
  rcases c.run.run Step.perform w with ⟨_ | a, w'⟩ <;> rfl

theorem on_bind_ok {c : Call α} {a : α} (h : c.on w = (.ok a, w')) (f : α → Call β) :
    (c >>= f).on w = (f a).on w' := by
  rw [on_bind, h]

theorem on_bind_eq_ok {c : Call α} {f : α → Call β} {b : β} :
    (c >>= f).on w = (.ok b, w') ↔ ∃ a w₁, c.on w = (.ok a, w₁) ∧ (f a).on w₁ = (.ok b, w') := by
  rw [on_bind]
  rcases h : c.on w with ⟨_ | a, w₁⟩
  · simp
  · simp [eq_comm]

theorem on_mapM_eq_ok {f : α → Call β} {l : List α} {l' : List β}
    (h : (l.mapM f).on w = (.ok l', w')) :
    List.Forall₂ (fun a b => ∃ v v', (f a).on v = (.ok b, v')) l l' := by
  induction l generalizing l' w w' with
  | nil =>
    rw [List.mapM_nil, on_pure, Prod.mk.injEq, Except.ok.injEq] at h
    rw [← h.1]
    exact .nil
  | cons a l ih =>
    rw [List.mapM_cons] at h
    obtain ⟨b, w₁, hb, h⟩ := on_bind_eq_ok.mp h
    obtain ⟨bs, w₂, hbs, h⟩ := on_bind_eq_ok.mp h
    rw [on_pure, Prod.mk.injEq, Except.ok.injEq] at h
    rw [← h.1]
    exact .cons ⟨w, w₁, hb⟩ (ih hbs)

theorem on_check_eq_ok {x : Except ValidationError α} {a : α} :
    (check x).on w = (.ok a, w') ↔ x = .ok a ∧ w = w' := by
  have hcheck : (check x).on w = (x.mapError .validation, w) := by cases x <;> rfl
  rw [hcheck, Prod.mk.injEq]
  cases x <;> simp [Except.mapError]

theorem on_ask_eq_ok {r : SearchRequest} {a : SearchAnswer} :
    (ask r).on w = (.ok a, w') ↔
      w.backend w.calls.length (.search r) = .ok a ∧ { w with calls := w.calls ++ [.search r] } = w' := by
  rw [on_ask, Prod.mk.injEq]
  cases w.backend w.calls.length (.search r) <;> simp [Except.mapError]

theorem on_since (start : Instant) (w : ServiceWorld) :
    (since start).on w = (.ok (w.clock.millis - start.millis).toNat, w) := rfl

theorem clock_perform (a : Step) (w : ServiceWorld) : (a.perform w).2.clock = w.clock := by
  cases a <;> rfl

/-- The clock stands still during a call. -/
theorem clock_of_on {c : Call α} {r : Except ServiceError α} (h : c.on w = (r, w')) :
    w'.clock = w.clock := by
  have hrun := Procedure.run_keeps (I := fun v => v.clock = w.clock)
    (fun a v hv => (clock_perform a v).trans hv) c.run rfl
  change (c.on w).2.clock = w.clock at hrun
  rwa [h] at hrun

/-! ## The tag cache -/

theorem run_embed (p : Procedure Action.Reply α) (w : ServiceWorld) :
    (p.embed fun a => Procedure.ofAction (Step.cache a)).run Step.perform w =
      ((p.run Action.perform w.cache).1, { w with cache := (p.run Action.perform w.cache).2 }) := by
  induction p generalizing w with
  | done a => rfl
  | act a next ih => exact ih _ _

theorem on_caching (c : Cache.Call α) (w : ServiceWorld) :
    (caching c).on w = ((c.run.run Action.perform w.cache).1.mapError .ofProvider,
      { w with cache := (c.run.run Action.perform w.cache).2 }) := by
  unfold caching provided Call.on
  change (Procedure.bind _ _).run Step.perform w = _
  rw [Procedure.run_bind, run_embed]
  rfl

theorem on_caching_eq_ok {c : Cache.Call α} {a : α} (h : (caching c).on w = (.ok a, w')) :
    (Cache.perform c w.cache).1 = .ok a := by
  rw [on_caching, Prod.mk.injEq] at h
  change (Cache.perform c w.cache).1.mapError _ = _ ∧ _ at h
  cases hc : (Cache.perform c w.cache).1 with
  | error e =>
    rw [hc] at h
    cases h.1
  | ok b =>
    rw [hc] at h
    have hba : b = a := Except.ok.inj h.1
    rw [hba]

/-! ## Requests -/

/-- What a request asks for. -/
def operation? (method target : String) : Option Operation :=
  ((Operation.offered (RequestTarget.ofText target).path).lookup method).bind Operation.decoded?

/-- How a call ends as a reply. -/
def replyOf : Except ServiceError ServiceReply → ServiceReply
  | .ok reply => reply
  | .error e => e.toReply

theorem eq_ok_of_status {x : Except ServiceError ServiceReply} (h : (replyOf x).status = 200) :
    x = .ok (replyOf x) := by
  cases x with
  | ok reply => rfl
  | error e => cases e <;> cases h

theorem run_reply (c : Call ServiceReply) (w : ServiceWorld) :
    (reply c).run Step.perform w = (replyOf (c.on w).1, (c.on w).2) := by
  unfold reply
  rw [Procedure.run_bind]
  rfl

theorem handleOffered_of_operation? {s : Service} {method target : String} {op : Operation}
    (h : operation? method target = some op) :
    s.handleOffered method (.ofText target) =
      reply (s.carryOut (RequestTarget.ofText target).query op) := by
  obtain ⟨op', hoffered, hdecoded⟩ := Option.bind_eq_some_iff.mp h
  unfold handleOffered
  cases hpath : Operation.offered (RequestTarget.ofText target).path with
  | nil => rw [hpath] at hoffered; cases hoffered
  | cons p ps => simp only [← hpath, hoffered, hdecoded]

theorem handleOffered_of_none {s : Service} {method target : String}
    (h : operation? method target = none) :
    ∃ r : ServiceReply, r.status ≠ 200 ∧ s.handleOffered method (.ofText target) = .done r := by
  rw [operation?, Option.bind_eq_none_iff] at h
  unfold handleOffered
  split
  · exact ⟨.unknownPath, by decide, rfl⟩
  · split
    · exact ⟨.wrongMethod, by decide, rfl⟩
    · next op hop =>
      rw [h op hop]
      exact ⟨.unreadable, by decide, rfl⟩

/-- **The reply to a request** is how the operation that it asks for ends. -/
theorem respond_eq {s : Service} {method target : String} {op : Operation} (hm : method ≠ "HEAD")
    (h : operation? method target = some op) (w : ServiceWorld) :
    s.respond method target w =
      (replyOf ((s.carryOut (RequestTarget.ofText target).query op).on w).1,
        ((s.carryOut (RequestTarget.ofText target).query op).on w).2) := by
  unfold respond handle
  dsimp only
  rw [if_neg hm, handleOffered_of_operation? h, run_reply]

theorem on_carryOut_of_status {s : Service} {method target : String} {op : Operation}
    (hm : method ≠ "HEAD") (hop : operation? method target = some op)
    (h : (s.respond method target w).1.status = 200) :
    (s.carryOut (RequestTarget.ofText target).query op).on w =
      (.ok (s.respond method target w).1, (s.respond method target w).2) := by
  rw [respond_eq hm hop] at h ⊢
  exact Prod.ext (eq_ok_of_status h) rfl

theorem on_searching_eq_ok {query : List Char} {go : SearchParams → Call ServiceReply}
    {r : ServiceReply} (h : (searching query go).on w = (.ok r, w')) (hr : r.status = 200) :
    ∃ p, SearchParams.parse? query = some p ∧ (go p).on w = (.ok r, w') := by
  unfold searching at h
  split at h
  · next p hp => exact ⟨p, hp, h⟩
  · rw [on_pure, Prod.mk.injEq, Except.ok.injEq] at h
    rw [← h.1] at hr
    cases hr

end DocSearch.Service
