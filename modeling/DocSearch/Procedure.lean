/-!
# Procedures

* `Procedure` — a row of actions, each depending on the replies before it.
* `Procedure.run` — runs a procedure to its end over a world in which actions are performed;
  `Procedure.runUntil` stops in front of an action.
* `Procedure.embed` — carries out each action by a procedure of other actions.
* `Procedure.runM` — runs a procedure in a monad.
-/

namespace DocSearch

/-- A row of actions, each depending on the replies before it. `Reply a` is what the action `a`
comes back with. -/
inductive Procedure {A : Type} (Reply : A → Type) (α : Type) where
  | done (result : α)
  | act (a : A) (next : Reply a → Procedure Reply α)

namespace Procedure

variable {A B : Type} {Reply : A → Type} {Reply' : B → Type} {α β W : Type}

/-- Goes on with the result. -/
def bind : Procedure Reply α → (α → Procedure Reply β) → Procedure Reply β
  | done a, f => f a
  | act a next, f => act a fun r => (next r).bind f

instance : Monad (Procedure Reply) where
  pure := done
  bind := bind

theorem bind_done (p : Procedure Reply α) : p.bind done = p := by
  induction p with
  | done a => rfl
  | act a next ih => exact congrArg (act a) (funext ih)

theorem bind_assoc {γ : Type} (p : Procedure Reply α) (f : α → Procedure Reply β)
    (g : β → Procedure Reply γ) : (p.bind f).bind g = p.bind fun a => (f a).bind g := by
  induction p with
  | done a => rfl
  | act a next ih => exact congrArg (act a) (funext ih)

instance : LawfulMonad (Procedure Reply) :=
  LawfulMonad.mk' _ bind_done (fun _ _ => rfl) bind_assoc

/-- The procedure of one action. -/
def ofAction (a : A) : Procedure Reply (Reply a) := act a done

/-- Runs a procedure to its end, nobody else being about. -/
def run (perform : (a : A) → W → Reply a × W) : Procedure Reply α → W → α × W
  | done a, w => (a, w)
  | act a next, w =>
    let (r, w) := perform a w
    (next r).run perform w

/-- Running one procedure after another hands on the world. -/
theorem run_bind (perform : (a : A) → W → Reply a × W) (p : Procedure Reply α)
    (f : α → Procedure Reply β) (w : W) :
    (p.bind f).run perform w = (f (p.run perform w).1).run perform (p.run perform w).2 := by
  induction p generalizing w with
  | done a => rfl
  | act a next ih => exact ih _ _

/-- Runs a procedure up to the first action that `stop` names, and gives what is left of it. -/
def runUntil (perform : (a : A) → W → Reply a × W) (stop : A → W → Bool) :
    Procedure Reply α → W → Procedure Reply α × W
  | done a, w => (done a, w)
  | act a next, w =>
    if stop a w then (act a next, w)
    else
      let (r, w) := perform a w
      (next r).runUntil perform stop w

/-- Carries out each action by a procedure of other actions. -/
def embed (carryOut : (a : A) → Procedure Reply' (Reply a)) : Procedure Reply α → Procedure Reply' α
  | done a => done a
  | act a next => (carryOut a).bind fun r => (next r).embed carryOut

/-- Runs a procedure in a monad. -/
def runM {m : Type → Type} [Monad m] (perform : (a : A) → m (Reply a)) : Procedure Reply α → m α
  | done a => pure a
  | act a next => do
    let r ← perform a
    (next r).runM perform

end Procedure

end DocSearch
