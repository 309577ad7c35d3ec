import Mathlib
import DocSearch.Proofs.Cache.Together
/-!
# The actions of a call, their places and their order

* `Cache.Undisturbed`: what may become of a world between two actions of a call; time may pass, failures may
  be armed, and somebody may look whether the counts are there.
* `Cache.Proper`: the places of actions. A lock is taken while it is free, and the index is counted by a
  caller that has the lock and has raised the flag, while the counts are missing.
* `Cache.Proceeds`: whatever becomes of the world meanwhile, each action is performed in its place, and the
  procedure ends with `Q`. **`Proceeds.runUntil`**, `Proceeds.run`: so is each action of a run.
* `Cache.Guards`: that of a call, with an assertion for its result and one for its failure. Rules:
  `guards_pure`, `Guards.bind`, `guards_of_takes`, **`Guards.between`**.
* `Cache.Settles`: the call keeps to the places, and leaves the lock free and the flag lowered.
  **`settles_getTags`**, `settles_addTag`, `settles_removeTag`, `settles_flush`: so do all calls.
* `Cache.CountsOnce`: the call notes the state and then counts the index, once, or does neither.
  **`countsOnce_getTags`**, `countsOnce_addTag`, `countsOnce_removeTag`, `countsOnce_flush`: so do all calls.
-/

namespace DocSearch

namespace Cache

open Procedure

variable {α β : Type} {w w' : CacheWorld}

/-! ## Between two actions -/

/-- What may become of a world between two actions of a call: the flag and the lock stay, and counts that
are missing do not come. -/
structure Undisturbed (w w' : CacheWorld) : Prop where
  hydrating : w'.hydrating = w.hydrating
  locked : w'.locked = w.locked
  absent : holds w = false → holds w' = false

theorem Undisturbed.refl (w : CacheWorld) : Undisturbed w w := ⟨rfl, rfl, id⟩

theorem Undisturbed.trans {w'' : CacheWorld} (h : Undisturbed w w') (h' : Undisturbed w' w'') :
    Undisturbed w w'' :=
  ⟨h'.hydrating.trans h.hydrating, h'.locked.trans h.locked, h'.absent ∘ h.absent⟩

theorem holds_eq_false_iff : holds w = false ↔ (w.store.purge w.now).hash? tagsKey = none := by
  rw [holds, Store.contains, Option.isSome_eq_false_iff, Option.isNone_iff_eq_none]

theorem undisturbed_after (w : CacheWorld) (e : Happening) : Undisturbed w (w.after e) := by
  refine ⟨rfl, rfl, fun h => ?_⟩
  rw [holds_eq_false_iff] at h ⊢
  have hle : w.now ≤ w.now + e.elapsed := Nat.le_add_right _ _
  change (w.store.purge (w.now + e.elapsed)).hash? tagsKey = none
  rw [← Store.purge_purge_of_le hle]
  exact Store.hash?_purge_of_eq_none h _

theorem contains_cases (w : CacheWorld) :
    w.contains = (.ok (holds w), looked w) ∨
      ∃ text, (CacheWorld.takeFault .contains w.faults).1 = some text ∧
        w.contains = (.error (.other text),
          { w with faults := (CacheWorld.takeFault .contains w.faults).2 }) := by
  unfold CacheWorld.contains CacheWorld.calling
  split
  · rename_i text rest h
    exact .inr ⟨text, by rw [h], by rw [h]⟩
  · exact .inl rfl

theorem undisturbed_contains (w : CacheWorld) : Undisturbed w w.contains.2 := by
  rcases contains_cases w with e | ⟨text, -, e⟩
  · rw [e]
    exact ⟨rfl, rfl, (holds_looked w).trans⟩
  · rw [e]
    exact ⟨rfl, rfl, id⟩

/-! ## Places -/

/-- The place of an action: a lock is taken while it is free, and the index is counted, and before it the
state noted, by a caller that has the lock and has raised the flag, while the counts are missing. -/
def Proper : Action → CacheWorld → Prop
  | .acquire, w => w.locked = false
  | .observe, w | .count, w => w.locked = true ∧ w.hydrating = true ∧ holds w = false
  | _, _ => True

/-- Whatever becomes of the world before each action, the action is performed in its place, and the
procedure ends with `Q`. -/
def Proceeds (Q : α → CacheWorld → Prop) : Procedure Action.Reply α → CacheWorld → Prop
  | .done r, w => Q r w
  | .act a next, w => ∀ w', Undisturbed w w' →
      Proper a w' ∧ Proceeds Q (next (a.perform w').1) (a.perform w').2

section Proceeds

variable {Q R : α → CacheWorld → Prop} {Q' : β → CacheWorld → Prop}
  {p : Procedure Action.Reply α}

theorem Proceeds.bind {f : α → Procedure Action.Reply β} (hp : Proceeds R p w)
    (hf : ∀ a w, R a w → Proceeds Q' (f a) w) : Proceeds Q' (p.bind f) w := by
  induction p generalizing w with
  | done a => exact hf a w hp
  | act a next ih => exact fun w' hw => ⟨(hp w' hw).1, ih _ (hp w' hw).2⟩

theorem Proceeds.undisturbed {a : Action} {next : a.Reply → Procedure Action.Reply α}
    (hp : Proceeds Q (.act a next) w) (h : Undisturbed w w') : Proceeds Q (.act a next) w' :=
  fun w'' h' => hp w'' (h.trans h')

theorem Proceeds.mono {Q₁ : α → CacheWorld → Prop} (hp : Proceeds Q p w)
    (h : ∀ a w, Q a w → Q₁ a w) : Proceeds Q₁ p w := by
  induction p generalizing w with
  | done a => exact h a w hp
  | act a next ih => exact fun w' hw => ⟨(hp w' hw).1, ih _ (hp w' hw).2⟩

/-- **A run performs each action in its place**, and so will what is left of it. -/
theorem Proceeds.runUntil (es : Nat → Happening) (stop : Action → CacheWorld × Nat → Bool)
    {s : CacheWorld × Nat} (hp : Proceeds Q p s.1) :
    (∀ v ∈ p.visitsUntil (Action.performAmid es) stop s, Proper v.1 (v.2.1.after (es v.2.2))) ∧
      Proceeds Q (p.runUntil (Action.performAmid es) stop s).1
        (p.runUntil (Action.performAmid es) stop s).2.1 := by
  induction p generalizing s with
  | done a => exact ⟨List.forall_mem_nil _, hp⟩
  | act a next ih =>
    by_cases h : stop a s = true
    · rw [runUntil_of_stop h, visitsUntil_of_stop h]
      exact ⟨List.forall_mem_nil _, hp⟩
    · rw [Bool.not_eq_true] at h
      rw [runUntil_of_perform h rfl, visitsUntil_of_perform h rfl, List.forall_mem_cons]
      obtain ⟨ha, hnext⟩ := hp _ (undisturbed_after s.1 (es s.2))
      have hrest := ih _ (s := (a.performAmid es s).2) hnext
      exact ⟨⟨ha, hrest.1⟩, hrest.2⟩

theorem Proceeds.run (es : Nat → Happening) {s : CacheWorld × Nat} (hp : Proceeds Q p s.1) :
    Q (p.run (Action.performAmid es) s).1 (p.run (Action.performAmid es) s).2.1 := by
  have h := (hp.runUntil es never).2
  rw [runUntil_never] at h
  exact h

end Proceeds

/-! ## Calls -/

/-- The assertion that belongs to how a call ends. -/
def Ending (Q : α → CacheWorld → Prop) (E : CacheWorld → Prop) :
    Except ProviderError α → CacheWorld → Prop
  | .ok a, w => Q a w
  | .error _, w => E w

/-- A call that starts with `P` performs each action in its place, and ends with `Q` or fails with `E`. -/
def Guards (P : CacheWorld → Prop) (c : Call α) (Q : α → CacheWorld → Prop)
    (E : CacheWorld → Prop) : Prop :=
  ∀ w, P w → Proceeds (Ending Q E) c.run w

section Guards

variable {P P' E T T' : CacheWorld → Prop} {Q R : α → CacheWorld → Prop}
  {Q' : β → CacheWorld → Prop} {c : Call α}

theorem ending_of_forall {r : Except ProviderError α} (h : T w) : Ending (fun _ => T) T r w := by
  cases r <;> exact h

theorem guards_pure {a : α} (h : ∀ w, P w → Q a w) : Guards P (pure a) Q E := h

theorem Guards.bind {f : α → Call β} (hc : Guards P c R E) (hf : ∀ a, Guards (R a) (f a) Q' E) :
    Guards P (c >>= f) Q' E := by
  intro w hw
  refine Proceeds.bind (f := ExceptT.bindCont f) (hc w hw) fun r v hr => ?_
  cases r with
  | ok a => exact hf a v hr
  | error e => exact hr

theorem Guards.of_imp (hc : Guards P c Q E) (h : ∀ w, P' w → P w) : Guards P' c Q E :=
  fun w hw => hc w (h w hw)

theorem guards_always {a : Action}
    (h : ∀ w w', P w → Undisturbed w w' → Proper a w' ∧ T (a.perform w').2) :
    Guards P (always a) (fun _ => T) E := fun w hw w' hu => h w w' hw hu

theorem Guards.between {before after : Action} (hc : Guards P' c (fun _ => T') T')
    (hb : ∀ w w', P w → Undisturbed w w' → Proper before w' ∧ P' (before.perform w').2)
    (ha : ∀ w w', T' w → Undisturbed w w' → Proper after w' ∧ T (after.perform w').2) :
    Guards P (between before after c) (fun _ => T) T := by
  have hlift : Guards P' (ExceptT.lift c.run : Call (Except ProviderError α)) (fun _ => T') T :=
    fun w hw => Proceeds.bind (hc w hw) fun r v hr => by cases r <;> exact hr
  refine Guards.bind (guards_always hb) fun _ => Guards.bind hlift fun r => ?_
  exact Guards.bind (guards_always ha) fun _ w hw => ending_of_forall hw

end Guards

/-! ## The flag and the lock -/

/-- The flag is up or not, and somebody has the lock or not. -/
structure Stands (up taken : Bool) (w : CacheWorld) : Prop where
  hydrating : w.hydrating = up
  locked : w.locked = taken

/-- The action moves neither the flag nor the lock, and has no place of its own. -/
def Plain : Action → Prop
  | .acquire | .release | .flag _ | .observe | .count => False
  | _ => True

section Stands

variable {up taken : Bool}

theorem Stands.undisturbed (h : Stands up taken w) (hu : Undisturbed w w') : Stands up taken w' :=
  ⟨hu.hydrating.trans h.hydrating, hu.locked.trans h.locked⟩

theorem Stands.calling {γ : Type} {g : CacheWorld → Except ProviderError γ × CacheWorld}
    (h : Stands up taken w) (hg : Stands up taken (g w).2) (p : FaultPoint) :
    Stands up taken (w.calling p g).2 := by
  rcases calling_cases w p g with e | ⟨text, rest, -, e⟩
  · rwa [e]
  · rw [e]
    exact ⟨h.hydrating, h.locked⟩

theorem Stands.perform (h : Stands up taken w) {a : Action}
    (ha : a ≠ .acquire ∧ a ≠ .release ∧ ∀ up, a ≠ .flag up) : Stands up taken (a.perform w).2 := by
  have hcontains : Stands up taken w.contains.2 := h.undisturbed (undisturbed_contains w)
  cases a with
  | contains => exact hcontains
  | observe => exact ⟨hcontains.hydrating, hcontains.locked⟩
  | acquire => exact absurd rfl ha.1
  | release => exact absurd rfl ha.2.1
  | flag up => exact absurd rfl (ha.2.2 up)
  | count | writeAll rows | readAll | adjust field delta | delete | add file tag | remove file tag =>
    exact h.calling ⟨h.hydrating, h.locked⟩ _

theorem Plain.perform {a : Action} (ha : Plain a) (h : Stands up taken w) :
    Proper a w ∧ Stands up taken (a.perform w).2 := by
  cases a with
  | acquire | release | flag up | observe | count => exact ha.elim
  | contains | writeAll rows | readAll | adjust field delta | delete | add file tag | remove file tag =>
    exact ⟨trivial, h.perform ⟨nofun, nofun, nofun⟩⟩

theorem guards_of_takes {c : Call α} (hc : c.run.Takes Plain) :
    Guards (Stands up taken) c (fun _ => Stands up taken) (Stands up taken) := by
  unfold Guards
  generalize c.run = p at hc
  intro w h
  induction p generalizing w with
  | done r => exact ending_of_forall h
  | act a next ih =>
    intro w' hu
    obtain ⟨hproper, hstands⟩ := hc.1.perform (h.undisturbed hu)
    exact ⟨hproper, ih _ (hc.2 _) _ hstands⟩

end Stands

/-! ## The calls of the cache -/

/-- The counts are missing, with the flag and the lock as told. -/
def Missing (up taken : Bool) (w : CacheWorld) : Prop := Stands up taken w ∧ holds w = false

theorem Missing.undisturbed {up taken : Bool} (h : Missing up taken w) (hu : Undisturbed w w') :
    Missing up taken w' := ⟨h.1.undisturbed hu, hu.absent h.2⟩

theorem guards_isHydrated {up taken : Bool} :
    Guards (Stands up taken) isHydrated
      (fun found w => if found then Stands up taken w else Missing up taken w)
      (Stands up taken) := by
  intro w h w' hu
  have hstands := (h.undisturbed hu).undisturbed (undisturbed_contains w')
  refine ⟨trivial, ?_⟩
  change Ending _ _ w'.contains.1 w'.contains.2
  rcases contains_cases w' with e | ⟨text, -, e⟩
  · rw [e] at hstands ⊢
    cases hfound : holds w' with
    | true => exact hstands
    | false => exact ⟨hstands, (holds_looked w').trans hfound⟩
  · rw [e] at hstands ⊢
    exact hstands

theorem guards_fill :
    Guards (Missing true true) fill (fun _ => Stands true true) (Stands true true) := by
  have hplace {w : CacheWorld} (h : Missing true true w) :
      w.locked = true ∧ w.hydrating = true ∧ holds w = false :=
    ⟨h.1.locked, h.1.hydrating, h.2⟩
  have hobserve : Guards (Missing true true) (always .observe) (fun _ => Missing true true)
      (Stands true true) := by
    refine guards_always fun w w' h hu => ⟨hplace (h.undisturbed hu), ?_⟩
    have hlooked := (h.undisturbed hu).undisturbed (undisturbed_contains w')
    exact ⟨⟨hlooked.1.hydrating, hlooked.1.locked⟩, hlooked.2⟩
  have hcount : Guards (Missing true true) (call (.ofAction Action.count))
      (fun _ => Stands true true) (Stands true true) := by
    intro w h w' hu
    have h' := h.undisturbed hu
    exact ⟨hplace h', ending_of_forall (h'.1.perform ⟨nofun, nofun, nofun⟩)⟩
  refine hobserve.bind fun _ => hcount.bind fun counts => ?_
  split
  · exact guards_pure fun w h => h
  · exact guards_of_takes ⟨trivial, fun _ => trivial⟩

/-- The call performs each action in its place. It starts with the lock free and the flag lowered, and
leaves them so, however it ends. -/
def Settles (c : Call α) : Prop :=
  Guards (Stands false false) c (fun _ => Stands false false) (Stands false false)

theorem Settles.proceeds {c : Call α} (hc : Settles c) (h : Stands false false w) :
    Proceeds (fun _ => Stands false false) c.run w :=
  (hc w h).mono fun r v hr => by cases r <;> exact hr

/-- What is done under the lock finds the lock free and leaves it free. -/
theorem settles_between {c : Call α}
    (hc : Guards (Stands false true) c (fun _ => Stands false true) (Stands false true)) :
    Settles (between .acquire .release c) := by
  refine hc.between (fun w w' h hu => ?_) fun w w' h hu => ?_
  · have h' := h.undisturbed hu
    exact ⟨h'.locked, h'.hydrating, rfl⟩
  · exact ⟨trivial, (h.undisturbed hu).hydrating, rfl⟩

theorem settles_locked :
    Settles (between .acquire .release do
      if ← isHydrated then pure ()
      else between (.flag true) (.flag false) fill) := by
  have hflagged : Guards (Missing false true) (between (.flag true) (.flag false) fill)
      (fun _ => Stands false true) (Stands false true) := by
    refine guards_fill.between (fun w w' h hu => ⟨trivial, ?_⟩) fun w w' h hu => ⟨trivial, ?_⟩
    · have h' := h.undisturbed hu
      exact ⟨⟨rfl, h'.1.locked⟩, h'.2⟩
    · exact ⟨rfl, (h.undisturbed hu).locked⟩
  have hinside : Guards (Stands false true) (do
      if ← isHydrated then pure ()
      else between (.flag true) (.flag false) fill)
      (fun _ => Stands false true) (Stands false true) := by
    refine guards_isHydrated.bind fun found => ?_
    cases found with
    | true => exact guards_pure fun w h => h
    | false => exact hflagged
  exact settles_between hinside

theorem takes_read : Cache.read.run.Takes Plain :=
  Takes.exceptT_bind ⟨trivial, fun _ => trivial⟩ fun _ => trivial

/-- What is left of a reader that waits for the lock. -/
theorem settles_rest_lock : Settles Phase.lock.rest :=
  settles_locked.bind fun _ => guards_of_takes takes_read

/-- **A reader keeps to the places**, and leaves the lock free and the flag lowered. -/
theorem settles_getTags : Settles getTags := by
  have hhydrate : Settles hydrate := by
    refine guards_isHydrated.bind fun found => ?_
    cases found with
    | true => exact guards_pure fun w h => h
    | false => exact settles_locked.of_imp fun w h => h.1
  exact hhydrate.bind fun _ => guards_of_takes takes_read

theorem settles_afterChange (change : TagChange) (tag : Tag) (delta : Int) :
    Settles (afterChange change tag delta) := by
  have hadjust : Settles (call (.ofAction (Action.adjust tag.cacheField delta))) :=
    guards_of_takes ⟨trivial, fun _ => trivial⟩
  unfold afterChange
  split
  · exact hadjust.bind fun _ => settles_getTags
  · exact settles_getTags

theorem settles_addTag (file : String) (tag : Tag) : Settles (addTag file tag) := by
  have hadd : Settles (call (.ofAction (Action.add file tag))) :=
    guards_of_takes ⟨trivial, fun _ => trivial⟩
  exact hadd.bind fun change => settles_afterChange change tag 1

theorem settles_removeTag (file : String) (tag : Tag) : Settles (removeTag file tag) := by
  have hremove : Settles (call (.ofAction (Action.remove file tag))) :=
    guards_of_takes ⟨trivial, fun _ => trivial⟩
  exact hremove.bind fun change => settles_afterChange change tag (-1)

theorem settles_flush : Settles flush := by
  have hdelete : Guards (Stands false true) (call (.ofAction Action.delete))
      (fun _ => Stands false true) (Stands false true) :=
    guards_of_takes ⟨trivial, fun _ => trivial⟩
  exact settles_between hdelete

/-! ## One count at most -/

/-- The action belongs to a count of the index. -/
def counts (a : Action) : Bool := a = .observe || a = .count

/-- The index is counted once, and before it the state is noted, or neither is done. -/
def Once (l : List Action) : Prop := l = [] ∨ l = [.observe, .count]

/-- Whatever the actions come back with, the index is counted once at most. -/
def CountsOnce (c : Call α) : Prop := c.run.Forms counts Once

section CountsOnce

variable {L : List Action → Prop}

theorem run_between (before after : Action) (c : Call α) :
    (between before after c).run =
      .act before fun _ => c.run.bind fun r => .act after fun _ => .done r :=
  congrArg (act before) (funext fun _ => Procedure.bind_assoc c.run (done ∘ Except.ok) _)

theorem forms_between {before after : Action} {c : Call α} (hb : counts before = false)
    (ha : counts after = false) (hc : c.run.Forms counts L) :
    (between before after c).run.Forms counts L := by
  rw [run_between]
  intro _
  rw [hb]
  refine hc.bind fun r l hl _ => ?_
  rw [ha]
  have h : L (l ++ []) := by
    rw [List.append_nil]
    exact hl
  exact h

theorem CountsOnce.bind {c : Call α} {f : α → Call β} (hc : c.run.Takes fun a => counts a = false)
    (hf : ∀ a, CountsOnce (f a)) : CountsOnce (c >>= f) :=
  (forms_of_takes hc).exceptT_bind (fun _ => .inl) fun a l hl => by
    subst hl
    exact hf a

theorem forms_fill : fill.run.Forms counts (· = [.observe, .count]) := by
  have hcount : (call (.ofAction Action.count) : Call (List TagCount)).run.Forms counts
      (· = [.count]) := fun _ => rfl
  have hrest : (do
      let rows ← call (.ofAction Action.count)
      if rows.isEmpty then pure ()
      else call (.ofAction (Action.writeAll (rows.map TagCount.toRow))) : Call Unit).run.Forms
        counts (· = [.count]) := by
    refine hcount.exceptT_bind (fun _ h => h) fun rows l hl => ?_
    subst hl
    split
    · rfl
    · exact fun _ => rfl
  exact fun _ => hrest.mono fun l hl => congrArg (Action.observe :: ·) hl

theorem countsOnce_hydrate : CountsOnce hydrate := by
  have hlook : isHydrated.run.Takes fun a => counts a = false := ⟨rfl, fun _ => trivial⟩
  have hfill : CountsOnce (between (.flag true) (.flag false) fill) :=
    forms_between rfl rfl (forms_fill.mono fun _ => .inr)
  refine CountsOnce.bind hlook fun found => ?_
  split
  · exact .inl rfl
  · refine forms_between rfl rfl (CountsOnce.bind hlook fun found => ?_)
    split
    · exact .inl rfl
    · exact hfill

theorem countsOnce_getTags : CountsOnce getTags := by
  have hread : Cache.read.run.Forms counts (· = []) :=
    forms_of_takes (Takes.exceptT_bind ⟨rfl, fun _ => trivial⟩ fun _ => trivial)
  refine countsOnce_hydrate.exceptT_bind (fun _ h => h) fun _ l hl => hread.mono fun l' hl' => ?_
  rwa [hl', List.append_nil]

theorem countsOnce_afterChange (change : TagChange) (tag : Tag) (delta : Int) :
    CountsOnce (afterChange change tag delta) := by
  unfold afterChange
  split
  · exact .bind ⟨rfl, fun _ => trivial⟩ fun _ => countsOnce_getTags
  · exact countsOnce_getTags

theorem countsOnce_addTag (file : String) (tag : Tag) : CountsOnce (addTag file tag) :=
  .bind ⟨rfl, fun _ => trivial⟩ fun change => countsOnce_afterChange change tag 1

theorem countsOnce_removeTag (file : String) (tag : Tag) : CountsOnce (removeTag file tag) :=
  .bind ⟨rfl, fun _ => trivial⟩ fun change => countsOnce_afterChange change tag (-1)

theorem countsOnce_flush : CountsOnce flush :=
  forms_between rfl rfl fun _ => .inl rfl

end CountsOnce

end Cache

end DocSearch
