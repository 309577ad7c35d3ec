import Mathlib
import DocSearch.Procedure
/-!
# Runs of procedures

* `trace`: the actions of a run with their replies, also up to an action that stops it.
* `Always`: what holds of every result that a procedure can have.
* `Takes`: all actions that a procedure can take are of one kind; **`Takes.run`**: what actions of that
  kind keep a run keeps.
* `run_exceptT_lift`, `run_exceptT_bind`, `trace_exceptT_bind`: procedures that may fail, one after another.
* **`run_runUntil`**: what is left of a procedure, run later, ends as the whole procedure would.
* **`run_keeps`**: what every action keeps a run keeps.
* `runUntil_project`, `run_project`: a run over a world with more in it.
* `visitsUntil`: the actions of a run with the worlds they are performed in.
* `Forms`: of all actions that a procedure can take, those of a kind come in certain orders; rules `Forms.mono`
  and `Forms.bind`, and **`Forms.runUntil`**, `Forms.run`: a run, also when it is stopped, keeps to these
  orders.
-/

namespace DocSearch

namespace Procedure

variable {A α β W : Type} {Reply : A → Type} {perform : (a : A) → W → Reply a × W}
  {stop : A → W → Bool}

/-! ## Traces -/

/-- The actions of a run with what they come back with. -/
def trace (perform : (a : A) → W → Reply a × W) :
    Procedure Reply α → W → List ((a : A) × Reply a)
  | done _, _ => []
  | act a next, w => ⟨a, (perform a w).1⟩ :: (next (perform a w).1).trace perform (perform a w).2

theorem trace_bind (perform : (a : A) → W → Reply a × W) (p : Procedure Reply α)
    (f : α → Procedure Reply β) (w : W) :
    (p.bind f).trace perform w =
      p.trace perform w ++ (f (p.run perform w).1).trace perform (p.run perform w).2 := by
  induction p generalizing w with
  | done a => rfl
  | act a next ih => exact congrArg (_ :: ·) (ih _ _)

/-- The actions up to the first one that `stop` names. -/
def traceUntil (perform : (a : A) → W → Reply a × W) (stop : A → W → Bool) :
    Procedure Reply α → W → List ((a : A) × Reply a)
  | done _, _ => []
  | act a next, w =>
    if stop a w then []
    else ⟨a, (perform a w).1⟩ ::
      (next (perform a w).1).traceUntil perform stop (perform a w).2

theorem trace_of_perform {a : A} {next : Reply a → Procedure Reply α} {w w' : W} {r : Reply a}
    (hp : perform a w = (r, w')) :
    (act a next).trace perform w = ⟨a, r⟩ :: (next r).trace perform w' := by
  rw [trace, hp]

theorem traceUntil_of_stop {a : A} {next : Reply a → Procedure Reply α} {w : W}
    (h : stop a w = true) : (act a next).traceUntil perform stop w = [] := by
  rw [traceUntil, if_pos h]

theorem traceUntil_of_perform {a : A} {next : Reply a → Procedure Reply α} {w w' : W} {r : Reply a}
    (h : stop a w = false) (hp : perform a w = (r, w')) :
    (act a next).traceUntil perform stop w = ⟨a, r⟩ :: (next r).traceUntil perform stop w' := by
  rw [traceUntil, h, hp]
  rfl

/-! ## Runs -/

theorem runUntil_of_stop {a : A} {next : Reply a → Procedure Reply α} {w : W}
    (h : stop a w = true) : (act a next).runUntil perform stop w = (act a next, w) := by
  rw [runUntil, if_pos h]

theorem runUntil_of_perform {a : A} {next : Reply a → Procedure Reply α} {w w' : W} {r : Reply a}
    (h : stop a w = false) (hp : perform a w = (r, w')) :
    (act a next).runUntil perform stop w = (next r).runUntil perform stop w' := by
  rw [runUntil, h, hp]
  rfl

theorem run_of_perform {a : A} {next : Reply a → Procedure Reply α} {w w' : W} {r : Reply a}
    (hp : perform a w = (r, w')) : (act a next).run perform w = (next r).run perform w' := by
  rw [run, hp]

/-- **What is left of a procedure ends as the whole procedure would.** -/
theorem run_runUntil (p : Procedure Reply α) (w : W) :
    (p.runUntil perform stop w).1.run perform (p.runUntil perform stop w).2 = p.run perform w := by
  induction p generalizing w with
  | done a => rfl
  | act a next ih =>
    by_cases h : stop a w = true
    · rw [runUntil_of_stop h]
    · rw [Bool.not_eq_true] at h
      rw [runUntil_of_perform h rfl, ih, run_of_perform rfl]

theorem runUntil_cases (perform : (a : A) → W → Reply a × W) (stop : A → W → Bool)
    (p : Procedure Reply α) (w : W) :
    (∃ r, (p.runUntil perform stop w).1 = done r) ∨
      ∃ a next, (p.runUntil perform stop w).1 = act a next ∧
        stop a (p.runUntil perform stop w).2 = true := by
  induction p generalizing w with
  | done r => exact .inl ⟨r, rfl⟩
  | act a next ih =>
    by_cases h : stop a w = true
    · rw [runUntil_of_stop h]
      exact .inr ⟨a, next, rfl, h⟩
    · rw [Bool.not_eq_true] at h
      rw [runUntil_of_perform h rfl]
      exact ih _ _

/-- Nothing stops a run. -/
def never (_ : A) (_ : W) : Bool := false

theorem runUntil_never (p : Procedure Reply α) (w : W) :
    p.runUntil perform never w =
      (done (p.run perform w).1, (p.run perform w).2) := by
  induction p generalizing w with
  | done a => rfl
  | act a next ih =>
    rw [runUntil_of_perform rfl rfl, ih, run_of_perform rfl]

/-- **What every action keeps a run keeps.** -/
theorem run_keeps {I : W → Prop} (h : ∀ a w, I w → I (perform a w).2) (p : Procedure Reply α)
    {w : W} (hw : I w) : I (p.run perform w).2 := by
  induction p generalizing w with
  | done a => exact hw
  | act a next ih => exact ih _ (h a w hw)

section Project

variable {W' : Type} {perform' : (a : A) → W' → Reply a × W'} {f : W' → W}

/-- Over a world with more in it that no action looks at, a procedure runs the same. -/
theorem runUntil_project (h : ∀ a w, Prod.map id f (perform' a w) = perform a (f w))
    (stop : A → W → Bool) (p : Procedure Reply α) (w : W') :
    Prod.map id f (p.runUntil perform' (fun a w => stop a (f w)) w) =
      p.runUntil perform stop (f w) := by
  induction p generalizing w with
  | done a => rfl
  | act a next ih =>
    by_cases hstop : stop a (f w) = true
    · have hstop' : (act a next).runUntil perform' (fun a w => stop a (f w)) w = (act a next, w) :=
        runUntil_of_stop hstop
      rw [hstop', runUntil_of_stop hstop]
      rfl
    · rw [Bool.not_eq_true] at hstop
      have hnext : (act a next).runUntil perform' (fun a w => stop a (f w)) w =
          (next (perform' a w).1).runUntil perform' (fun a w => stop a (f w)) (perform' a w).2 :=
        runUntil_of_perform hstop rfl
      rw [hnext, ih, runUntil_of_perform hstop (h a w).symm]
      rfl

theorem run_project (h : ∀ a w, Prod.map id f (perform' a w) = perform a (f w))
    (p : Procedure Reply α) (w : W') :
    Prod.map id f (p.run perform' w) = p.run perform (f w) := by
  induction p generalizing w with
  | done a => rfl
  | act a next ih =>
    rw [run_of_perform (h a w).symm, run_of_perform rfl]
    exact ih _ _

end Project

/-! ## Results -/

/-- Whatever the actions come back with, the procedure ends with a result that satisfies `P`. -/
def Always (P : α → Prop) : Procedure Reply α → Prop
  | done a => P a
  | act _ next => ∀ r, (next r).Always P

theorem Always.bind {P : α → Prop} {Q : β → Prop} {p : Procedure Reply α}
    {f : α → Procedure Reply β} (hp : p.Always P) (hf : ∀ a, P a → (f a).Always Q) :
    (p.bind f).Always Q := by
  induction p with
  | done a => exact hf a hp
  | act a next ih => exact fun r => ih r (hp r)

theorem always_of_forall {P : α → Prop} (h : ∀ a, P a) (p : Procedure Reply α) : p.Always P := by
  induction p with
  | done a => exact h a
  | act a next ih => exact fun r => ih r

theorem Always.run {P : α → Prop} {p : Procedure Reply α} (hp : p.Always P) (w : W) :
    P (p.run perform w).1 := by
  induction p generalizing w with
  | done a => exact hp
  | act a next ih => exact ih _ (hp _) _

/-! ## Actions -/

/-- Whatever the actions come back with, each action that is taken satisfies `P`. -/
def Takes (P : A → Prop) : Procedure Reply α → Prop
  | done _ => True
  | act a next => P a ∧ ∀ r, (next r).Takes P

variable {P : A → Prop}

theorem Takes.bind {p : Procedure Reply α} {f : α → Procedure Reply β} (hp : p.Takes P)
    (hf : ∀ a, (f a).Takes P) : (p.bind f).Takes P := by
  induction p with
  | done a => exact hf a
  | act a next ih => exact ⟨hp.1, fun r => ih r (hp.2 r)⟩

theorem Takes.embed {B : Type} {Reply' : B → Type} {Q : B → Prop}
    {carryOut : (a : A) → Procedure Reply' (Reply a)} (h : ∀ a, P a → (carryOut a).Takes Q)
    {p : Procedure Reply α} (hp : p.Takes P) : (p.embed carryOut).Takes Q := by
  induction p with
  | done a => trivial
  | act a next ih => exact (h a hp.1).bind fun r => ih r (hp.2 r)

/-- **What the actions of one kind keep a run of them keeps.** -/
theorem Takes.run {I : W → Prop} (h : ∀ a w, P a → I w → I (perform a w).2)
    {p : Procedure Reply α} (hp : p.Takes P) {w : W} (hw : I w) : I (p.run perform w).2 := by
  induction p generalizing w with
  | done a => exact hw
  | act a next ih => exact ih _ (hp.2 _) (h a w hp.1 hw)

theorem Takes.exceptT_bind {ε : Type} {c : ExceptT ε (Procedure Reply) α}
    {f : α → ExceptT ε (Procedure Reply) β} (hc : c.run.Takes P) (hf : ∀ a, (f a).run.Takes P) :
    (c >>= f).run.Takes P := by
  refine Takes.bind (f := ExceptT.bindCont f) hc fun r => ?_
  cases r with
  | ok a => exact hf a
  | error e => trivial

theorem Takes.exceptT_lift {ε : Type} {p : Procedure Reply α} (hp : p.Takes P) :
    (ExceptT.lift p : ExceptT ε (Procedure Reply) α).run.Takes P :=
  hp.bind fun _ => trivial

/-! ## Visits -/

/-- The actions up to the first one that `stop` names, each with the world it is performed in. -/
def visitsUntil (perform : (a : A) → W → Reply a × W) (stop : A → W → Bool) :
    Procedure Reply α → W → List (A × W)
  | done _, _ => []
  | act a next, w =>
    if stop a w then []
    else (a, w) :: (next (perform a w).1).visitsUntil perform stop (perform a w).2

theorem visitsUntil_of_stop {a : A} {next : Reply a → Procedure Reply α} {w : W}
    (h : stop a w = true) : (act a next).visitsUntil perform stop w = [] := by
  rw [visitsUntil, if_pos h]

theorem visitsUntil_of_perform {a : A} {next : Reply a → Procedure Reply α} {w w' : W} {r : Reply a}
    (h : stop a w = false) (hp : perform a w = (r, w')) :
    (act a next).visitsUntil perform stop w = (a, w) :: (next r).visitsUntil perform stop w' := by
  rw [visitsUntil, h, hp]
  rfl

/-! ## Orders of actions -/

/-- Whatever the actions come back with, the actions of a kind that are taken, in their order, satisfy
`L`. -/
def Forms (kind : A → Bool) : Procedure Reply α → (List A → Prop) → Prop
  | done _, L => L []
  | act a next, L => ∀ r, (next r).Forms kind fun l => L (if kind a then a :: l else l)

section Forms

variable {kind : A → Bool} {L L' : List A → Prop}

theorem Forms.mono {p : Procedure Reply α} (hp : p.Forms kind L) (h : ∀ l, L l → L' l) :
    p.Forms kind L' := by
  induction p generalizing L L' with
  | done a => exact h [] hp
  | act a next ih => exact fun r => ih r (hp r) fun l => h _

theorem Forms.bind {p : Procedure Reply α} {f : α → Procedure Reply β} (hp : p.Forms kind L)
    (hf : ∀ a l, L l → (f a).Forms kind fun l' => L' (l ++ l')) : (p.bind f).Forms kind L' := by
  induction p generalizing L L' with
  | done a => exact hf a [] hp
  | act a next ih =>
    intro r
    refine ih r (hp r) fun b l hl => (hf b _ hl).mono fun l' h => ?_
    split_ifs at h ⊢ <;> exact h

theorem forms_of_takes {p : Procedure Reply α} (hp : p.Takes fun a => kind a = false) :
    p.Forms kind (· = []) := by
  induction p with
  | done a => rfl
  | act a next ih =>
    intro r
    rw [hp.1]
    exact ih r (hp.2 r)

/-- **A run keeps to the orders of its procedure**, and what is left of it to what may follow. -/
theorem Forms.runUntil (perform : (a : A) → W → Reply a × W) (stop : A → W → Bool)
    {p : Procedure Reply α} (hp : p.Forms kind L) (w : W) :
    (p.runUntil perform stop w).1.Forms kind fun l =>
      L (((p.visitsUntil perform stop w).map Prod.fst).filter kind ++ l) := by
  induction p generalizing L w with
  | done a => exact hp
  | act a next ih =>
    by_cases h : stop a w = true
    · rw [runUntil_of_stop h, visitsUntil_of_stop h]
      exact hp
    · rw [Bool.not_eq_true] at h
      rw [runUntil_of_perform h rfl, visitsUntil_of_perform h rfl]
      refine (ih _ (hp _) _).mono fun l hl => ?_
      rw [List.map_cons, List.filter_cons]
      split_ifs at hl ⊢ <;> exact hl

theorem Forms.run (perform : (a : A) → W → Reply a × W) {p : Procedure Reply α}
    (hp : p.Forms kind L) (w : W) :
    L (((p.visitsUntil perform never w).map Prod.fst).filter kind) := by
  have h := hp.runUntil perform never w
  rw [runUntil_never] at h
  rw [← List.append_nil (List.filter _ _)]
  exact h

theorem Forms.exceptT_bind {ε : Type} {c : ExceptT ε (Procedure Reply) α}
    {f : α → ExceptT ε (Procedure Reply) β} (hc : c.run.Forms kind L) (hL : ∀ l, L l → L' l)
    (hf : ∀ a l, L l → (f a).run.Forms kind fun l' => L' (l ++ l')) :
    (c >>= f).run.Forms kind L' := by
  refine Forms.bind (f := ExceptT.bindCont f) hc fun r l hl => ?_
  cases r with
  | ok a => exact hf a l hl
  | error e =>
    have h : L' (l ++ []) := by
      rw [List.append_nil]
      exact hL l hl
    exact h

end Forms

/-! ## Procedures that may fail -/

theorem run_exceptT_lift {ε : Type} (p : Procedure Reply α) (w : W) :
    (ExceptT.lift p : ExceptT ε (Procedure Reply) α).run.run perform w =
      (.ok (p.run perform w).1, (p.run perform w).2) := by
  change (p.bind fun a => done (Except.ok a)).run perform w = _
  rw [run_bind]
  rfl

theorem run_exceptT_bind {ε : Type} (c : ExceptT ε (Procedure Reply) α)
    (f : α → ExceptT ε (Procedure Reply) β) (w : W) :
    (c >>= f).run.run perform w =
      match (c.run.run perform w).1 with
      | .ok a => (f a).run.run perform (c.run.run perform w).2
      | .error e => (.error e, (c.run.run perform w).2) := by
  change (Procedure.bind c.run (ExceptT.bindCont f)).run perform w = _
  rw [run_bind]
  cases h : (c.run.run perform w).1 <;> rfl

theorem trace_exceptT_bind {ε : Type} (c : ExceptT ε (Procedure Reply) α)
    (f : α → ExceptT ε (Procedure Reply) β) (w : W) :
    (c >>= f).run.trace perform w =
      c.run.trace perform w ++
        match (c.run.run perform w).1 with
        | .ok a => (f a).run.trace perform (c.run.run perform w).2
        | .error _ => [] := by
  change (Procedure.bind c.run (ExceptT.bindCont f)).trace perform w = _
  rw [trace_bind]
  cases h : (c.run.run perform w).1 <;> rfl

end Procedure

end DocSearch
