import Mathlib
import DocSearch.Proofs.Procedure
import DocSearch.Service.Basic
/-!
# Requests that are refused

A request is refused with status 400 for what it says: a page, a size, a query, a tag, a token, or a
path that cannot be read. All that is looked at before the first step.

* `Service.Accepts`: a call that blames the request for nothing any more, whatever its steps come
  back with. No failure of a step does: `status_ofProvider`.
* `Service.Settled`: a call that is over at once, or is never answered with status 400; one lemma
  for each shape of call, then **`settled_carryOut`** for all operations and `settled_handle` for all
  requests.
* `Arrival`, `Service.serve`: a session of requests, each with what it meets.
* **`serve_accepted`**: a session goes on as if the refused requests had never come.
-/

namespace DocSearch

namespace Service

variable {α β : Type}

/-! ## Calls that refuse nothing any more -/

/-- Whatever its steps come back with, the call ends with a result that satisfies `Q`, or with an
error that is not the fault of the request. -/
def Accepts (Q : α → Prop) (c : Call α) : Prop :=
  c.run.Always fun r => match r with
    | .ok a => Q a
    | .error e => e.status ≠ 400

variable {Q : α → Prop} {R : β → Prop}

theorem accepts_pure {a : α} (h : Q a) : Accepts Q (pure a) := h

theorem accepts_throw {e : ServiceError} (h : e.status ≠ 400) : Accepts Q (throw e) := h

theorem Accepts.bind {c : Call α} {f : α → Call β} (hc : Accepts Q c)
    (hf : ∀ a, Q a → Accepts R (f a)) : Accepts R (c >>= f) := by
  refine Procedure.Always.bind (f := ExceptT.bindCont f) hc fun r hr => ?_
  cases r with
  | ok a => exact hf a hr
  | error e => exact hr

theorem status_ofProvider (e : ProviderError) : (ServiceError.ofProvider e).status ≠ 400 := by
  cases e <;> simp [ServiceError.ofProvider, ServiceError.status]

theorem accepts_provided (p : Procedure Step.Reply (Except ProviderError α)) :
    Accepts (fun _ => True) (provided p) := by
  have hp : p.Always fun _ => True := Procedure.always_of_forall (fun _ => trivial) p
  refine hp.bind fun r _ => ?_
  cases r with
  | ok a => trivial
  | error e => exact status_ofProvider e

theorem accepts_now : Accepts (fun _ => True) now := fun _ => trivial

theorem accepts_freshNonce : Accepts (fun _ => True) freshNonce := fun _ => trivial

theorem accepts_since (start : Instant) : Accepts (fun _ => True) (since start) :=
  accepts_now.bind fun _ _ => accepts_pure trivial

theorem accepts_withToken (s : Service) (hit : FileHit) :
    Accepts (fun _ => True) (s.withToken hit) := by
  refine accepts_freshNonce.bind fun nonce _ => ?_
  cases s.codec.encode nonce hit.fileId with
  | ok token => exact accepts_pure trivial
  | error e => exact accepts_throw (by simp [ServiceError.status])

theorem accepts_mapM {f : α → Call β} (h : ∀ a, Accepts (fun _ => True) (f a)) (as : List α) :
    Accepts (fun _ => True) (as.mapM f) := by
  induction as with
  | nil => exact accepts_pure trivial
  | cons a as ih =>
    rw [List.mapM_cons]
    exact (h a).bind fun _ _ => ih.bind fun _ _ => accepts_pure trivial

/-! ## Calls that are checked first -/

/-- The call is over without a step, or it ends with a status other than 400. -/
def Settled (p : Procedure Step.Reply ServiceReply) : Prop :=
  (∃ r, p = .done r) ∨ p.Always (·.status ≠ 400)

theorem Accepts.settled {c : Call ServiceReply} (h : Accepts (·.status ≠ 400) c) :
    Settled (reply c) := by
  refine .inr (Procedure.Always.bind h fun r hr => ?_)
  cases r with
  | ok reply => exact hr
  | error e => exact hr

theorem settled_throw (e : ServiceError) : Settled (reply (throw e)) := .inl ⟨e.toReply, rfl⟩

theorem settled_check (x : Except ValidationError α) {f : α → Call ServiceReply}
    (hf : ∀ a, Settled (reply (f a))) : Settled (reply (check x >>= f)) := by
  cases x with
  | ok a => exact hf a
  | error e => exact settled_throw _

theorem settled_searching (query : List Char) {go : SearchParams → Call ServiceReply}
    (h : ∀ p, Settled (reply (go p))) : Settled (reply (searching query go)) := by
  unfold searching
  split
  · exact h _
  · exact .inl ⟨.unreadable, rfl⟩

theorem settled_search (s : Service) (p : SearchParams) : Settled (reply (s.search p)) := by
  refine settled_check _ fun page => Accepts.settled ?_
  refine accepts_now.bind fun start _ => (accepts_provided _).bind fun listing _ =>
    (accepts_provided _).bind fun large _ => ?_
  exact (accepts_mapM s.accepts_withToken _).bind fun hits _ =>
    (accepts_since start).bind fun _ _ => accepts_pure (by simp [ServiceReply.found])

theorem settled_aggregated (query : String) (request : Query → SearchRequest) :
    Settled (reply (aggregated query request)) := by
  refine Accepts.settled (accepts_now.bind fun start _ => (accepts_provided _).bind fun _ _ => ?_)
  exact (accepts_since start).bind fun _ _ => accepts_pure (by simp [ServiceReply.found])

theorem settled_hitIn (file : String) (p : SearchParams) (mode : HighlightMode)
    {f : Option FileHit → Call ServiceReply} (hf : ∀ hit, Accepts (·.status ≠ 400) (f hit)) :
    Settled (reply (hitIn file p mode >>= f)) := by
  rw [hitIn, bind_assoc]
  refine settled_check _ fun query => Accepts.settled ?_
  refine Accepts.bind (Q := fun _ => True) ?_ fun hit _ => hf hit
  exact accepts_now.bind fun _ _ => (accepts_provided _).bind fun _ _ => accepts_pure trivial

theorem settled_caching (c : Cache.Call α) {f : α → Call ServiceReply}
    (hf : ∀ a, Accepts (·.status ≠ 400) (f a)) : Settled (reply (caching c >>= f)) :=
  Accepts.settled ((accepts_provided _).bind fun a _ => hf a)

theorem settled_fileOfToken (s : Service) (token : String) :
    Settled (reply (s.fileOfToken token)) := by
  unfold fileOfToken
  split
  · exact settled_throw _
  · refine Accepts.settled ((accepts_provided _).bind fun hit _ => ?_)
    cases hit with
    | some hit => exact accepts_pure (by simp [ServiceReply.found])
    | none => exact accepts_throw (by simp [ServiceError.status])

/-- **Every operation is refused at once, or not any more.** -/
theorem settled_carryOut (s : Service) (query : List Char) (o : Operation) :
    Settled (reply (s.carryOut query o)) := by
  have hfound : ∀ j, (ServiceReply.found j).status ≠ 400 := fun j => by simp [ServiceReply.found]
  have hdone : ServiceReply.done.status ≠ 400 := by decide
  cases o with
  | search => exact settled_searching query s.settled_search
  | folders => exact settled_searching query fun p => settled_aggregated _ _
  | statistics => exact settled_searching query fun p => settled_aggregated _ _
  | fragments file =>
    exact settled_searching query fun p => settled_hitIn file p _ fun _ => accepts_pure (hfound _)
  | wholeText file =>
    refine settled_searching query fun p => settled_hitIn file p _ fun hit => ?_
    cases hit with
    | some hit => exact accepts_pure (hfound _)
    | none => exact accepts_throw (by simp [ServiceError.status])
  | listTags => exact settled_caching _ fun _ => accepts_pure (hfound _)
  | flushTags => exact settled_caching _ fun _ => accepts_pure (by decide)
  | addServiceTag file type name =>
    exact settled_check _ fun tag => settled_caching _ fun _ => accepts_pure hdone
  | addTag file type name =>
    exact settled_check _ fun tag => settled_caching _ fun _ => accepts_pure (hfound _)
  | removeTag file type name =>
    exact settled_check _ fun type => settled_check _ fun tag =>
      settled_caching _ fun _ => accepts_pure (hfound _)
  | setHidden file hidden =>
    exact Accepts.settled ((accepts_provided _).bind fun _ _ => accepts_pure hdone)
  | fileOfToken token => exact s.settled_fileOfToken token
  | dashboard =>
    exact Accepts.settled ((accepts_provided _).bind fun _ _ => accepts_now.bind fun _ _ =>
      accepts_pure (hfound _))
  | overview => exact settled_aggregated "*" fun q => q.statistics (some overviewTagLimit)
  | processing =>
    exact Accepts.settled ((accepts_provided _).bind fun _ _ => accepts_pure (hfound _))

theorem settled_handleOffered (s : Service) (method : String) (target : RequestTarget) :
    Settled (s.handleOffered method target) := by
  unfold handleOffered
  split
  · exact .inl ⟨_, rfl⟩
  · split
    · exact .inl ⟨_, rfl⟩
    · split
      · exact .inl ⟨_, rfl⟩
      · exact s.settled_carryOut _ _

theorem settled_handle (s : Service) (method target : String) :
    Settled (s.handle method target) := by
  unfold handle
  dsimp only
  split_ifs
  · rcases s.settled_handleOffered "GET" (.ofText target) with ⟨r, h⟩ | h
    · exact .inl ⟨{ r with body := none }, by rw [h]; rfl⟩
    · exact .inr (h.bind fun r hr => hr)
  · exact s.settled_handleOffered _ _

/-- A request that is answered with status 400 takes no step. -/
theorem handle_of_rejected {s : Service} {method target : String} {w : ServiceWorld}
    (h : (s.respond method target w).1.status = 400) :
    s.handle method target = .done (s.respond method target w).1 := by
  rcases s.settled_handle method target with ⟨r, hr⟩ | hr
  · rw [respond, hr]
    rfl
  · exact absurd h (hr.run w)

end Service

/-! ## Sessions -/

/-- A request, and what it meets: the time, what the backend answers while it is carried out, and
the failures of the cache that are to come. -/
structure Arrival where
  method : String
  target : String
  backend : (n : Nat) → (c : BackendCall) → c.Reply
  clock : Instant
  now : Nat := 0
  faults : List (FaultPoint × String) := []

/-- The world that a request meets. -/
def ServiceWorld.meet (w : ServiceWorld) (a : Arrival) : ServiceWorld :=
  { w with
    cache := { w.cache with now := a.now, faults := a.faults }
    backend := a.backend, calls := [], clock := a.clock }

/-- A request with its reply, and the steps that were made for it. -/
structure Served where
  arrival : Arrival
  reply : ServiceReply
  steps : List ((s : Step) × s.Reply)

/-- The requests that were not refused. -/
def accepted (served : List Served) : List Served := served.filter (·.reply.status ≠ 400)

namespace Service

/-- Answers a request. -/
def answer (s : Service) (a : Arrival) (w : ServiceWorld) : Served × ServiceWorld :=
  let r := s.respond a.method a.target (w.meet a)
  (⟨a, r.1, (s.handle a.method a.target).trace Step.perform (w.meet a)⟩, r.2)

/-- Answers requests one after the other. -/
def serve (s : Service) : List Arrival → ServiceWorld → List Served × ServiceWorld
  | [], w => ([], w)
  | a :: as, w =>
    let (x, w') := s.answer a w
    let (served, last) := s.serve as w'
    (x :: served, last)

variable {s : Service} {a : Arrival} {w : ServiceWorld}

theorem serve_cons (s : Service) (a : Arrival) (as : List Arrival) (w : ServiceWorld) :
    s.serve (a :: as) w = ((s.answer a w).1 :: (s.serve as (s.answer a w).2).1,
      (s.serve as (s.answer a w).2).2) := rfl

theorem steps_of_rejected (h : (s.answer a w).1.reply.status = 400) :
    (s.answer a w).1.steps = [] := by
  have hd := handle_of_rejected h
  change (s.handle a.method a.target).trace Step.perform (w.meet a) = []
  rw [hd]
  rfl

theorem world_of_rejected (h : (s.answer a w).1.reply.status = 400) :
    (s.answer a w).2 = w.meet a := by
  have hd := handle_of_rejected h
  change ((s.handle a.method a.target).run Step.perform (w.meet a)).2 = w.meet a
  rw [hd]
  rfl

/-- Nothing that a request meets outlasts it. -/
theorem serve_meet (s : Service) (as : List Arrival) (w : ServiceWorld) (a : Arrival) :
    (s.serve as (w.meet a)).1 = (s.serve as w).1 ∧
      (s.serve as (w.meet a)).2.cache.index = (s.serve as w).2.cache.index ∧
      (s.serve as (w.meet a)).2.cache.store = (s.serve as w).2.cache.store := by
  cases as with
  | nil => exact ⟨rfl, rfl, rfl⟩
  | cons b as => exact ⟨rfl, rfl, rfl⟩

/-- **A refused request has no effect.** No step is made for it, and without it all other requests
have the same replies and steps, and leave the same index and the same store behind. -/
theorem serve_accepted (s : Service) (as : List Arrival) (w : ServiceWorld) :
    (∀ x ∈ (s.serve as w).1, x.reply.status = 400 → x.steps = []) ∧
      (s.serve ((accepted (s.serve as w).1).map (·.arrival)) w).1 = accepted (s.serve as w).1 ∧
      (s.serve ((accepted (s.serve as w).1).map (·.arrival)) w).2.cache.index =
        (s.serve as w).2.cache.index ∧
      (s.serve ((accepted (s.serve as w).1).map (·.arrival)) w).2.cache.store =
        (s.serve as w).2.cache.store := by
  induction as generalizing w with
  | nil => exact ⟨by simp [serve], rfl, rfl, rfl⟩
  | cons a as ih =>
    rw [serve_cons]
    dsimp only
    obtain ⟨hsteps, hserved, hindex, hstore⟩ := ih (s.answer a w).2
    by_cases h : (s.answer a w).1.reply.status = 400
    -- The world that the request has met is replaced by the one that the next request meets.
    · rw [world_of_rejected h] at hsteps hserved hindex hstore ⊢
      have hf : accepted ((s.answer a w).1 :: (s.serve as (w.meet a)).1) =
          accepted (s.serve as (w.meet a)).1 := List.filter_cons_of_neg (by simpa using h)
      obtain ⟨h₁, h₂, h₃⟩ :=
        s.serve_meet ((accepted (s.serve as (w.meet a)).1).map (·.arrival)) w a
      rw [hf, List.forall_mem_cons]
      exact ⟨⟨fun _ => steps_of_rejected h, hsteps⟩, h₁.symm.trans hserved, h₂.symm.trans hindex,
        h₃.symm.trans hstore⟩
    · have hf : accepted ((s.answer a w).1 :: (s.serve as (s.answer a w).2).1) =
          (s.answer a w).1 :: accepted (s.serve as (s.answer a w).2).1 :=
        List.filter_cons_of_pos (by simpa using h)
      have ha : (s.answer a w).1.arrival = a := rfl
      rw [hf, List.map_cons, ha, serve_cons, hserved, List.forall_mem_cons]
      exact ⟨⟨fun h' => absurd h' h, hsteps⟩, rfl, hindex, hstore⟩

/-- A backend that knows no files. -/
def emptyBackend : (n : Nat) → (c : BackendCall) → c.Reply
  | _, .search _ => .ok {}
  | _, .file _ => .ok none
  | _, .setHidden _ _ => .ok ()

/-- Three requests are refused: for a page, for the type of a tag, and for a token. -/
def mixedSession : List Arrival :=
  [("GET", "/api/search?page=-1"), ("POST", "/api/tags/a/manual/pdf"), ("POST", "/api/tags/a/auto/x"),
    ("GET", "/api/files/zz"), ("GET", "/api/tags")].map fun (method, target) =>
      { method, target, backend := emptyBackend, clock := ⟨0⟩ }

/-- A world with one file that has no tag. -/
def oneFile : ServiceWorld where
  cache := { index := ⟨[("a", [])]⟩ }
  backend := emptyBackend
  clock := ⟨0⟩

theorem serve_accepted_mixed :
    let s : Service := ⟨Codec.ofSecret "secret", 50⟩
    (s.serve mixedSession oneFile).1.map (·.reply.status) = [400, 200, 400, 400, 200] ∧
      (∀ x ∈ (s.serve mixedSession oneFile).1, x.reply.status = 400 → x.steps = []) ∧
      (s.serve ((accepted (s.serve mixedSession oneFile).1).map (·.arrival)) oneFile).2.cache.index =
        ⟨[("a", [⟨.manual, "pdf"⟩])]⟩ := by
  intro s
  obtain ⟨hsteps, -, hindex, -⟩ := serve_accepted s mixedSession oneFile
  refine ⟨by decide +kernel, hsteps, ?_⟩
  rw [hindex]
  decide +kernel

end Service

end DocSearch
