import Mathlib
import DocSearch.Proofs.Store.Tables
/-!
# What holds of a store through a row of operations

A `Request` is made some time after the one before it, so that the clock never goes back. `history` carries
out a row of requests and writes each step down.

* `history_tables`: the two tables of a store go through the same steps.
* `deadlineAt_of_history`: a deadline that is seen was given on the way or seen at the start.
* `Step.Sound`, `Step.sound`: what holds of one step from a tidy store.
* **`sound_history`**: from an empty store, every step is sound, the two tables stay aligned, and once a
  key has no hash it has no deadline but those given since.
-/

namespace DocSearch.Store

/-- An operation on the hash of a key, some time after the one before it. -/
structure Request where
  elapsed : Nat
  key : String
  operation : Operation

/-- A request that was carried out. -/
structure Step (σ : Type) where
  now : Nat
  request : Request
  before : σ
  reply : Reply
  after : σ

/-- The same step, with its states seen another way. -/
def Step.map {σ τ : Type} (f : σ → τ) (e : Step σ) : Step τ :=
  ⟨e.now, e.request, f e.before, e.reply, f e.after⟩

/-- Carries out requests in a row. -/
def history {σ : Type} (answer : Nat → σ → String → Operation → Reply × σ) :
    Nat → σ → List Request → List (Step σ)
  | _, _, [] => []
  | t, s, r :: rs =>
    let now := t + r.elapsed
    let (reply, after) := answer now s r.key r.operation
    ⟨now, r, s, reply, after⟩ :: history answer now after rs

variable {s : Store} {t d : Nat} {key : String}

theorem eq_answer_of_mem_history (hs : s.Tidy) {rs : List Request} {e : Step Store}
    (he : e ∈ history answer t s rs) :
    e.before.Tidy ∧
      (e.reply, e.after) = answer e.now e.before e.request.key e.request.operation := by
  induction rs generalizing t s with
  | nil => simp [history] at he
  | cons r rs ih =>
    rcases List.mem_cons.mp he with rfl | he
    · exact ⟨hs, rfl⟩
    · exact ih (hs.answer _ _ _) he

theorem tidy_of_mem_history (hs : s.Tidy) {rs : List Request} {e : Step Store}
    (he : e ∈ history answer t s rs) : e.after.Tidy := by
  obtain ⟨hbefore, hstep⟩ := eq_answer_of_mem_history hs he
  rw [(Prod.mk.inj hstep).2]
  exact hbefore.answer e.now e.request.key e.request.operation

/-- What comes after a step is the history of the rest from there. -/
theorem history_of_append {rs : List Request} {older newer : List (Step Store)} {e : Step Store}
    (h : history answer t s rs = older ++ e :: newer) :
    ∃ rs', newer = history answer e.now e.after rs' := by
  induction older generalizing t s rs with
  | nil =>
    cases rs with
    | nil => simp [history] at h
    | cons r rs =>
      obtain ⟨rfl, rfl⟩ := List.cons.inj h
      exact ⟨rs, rfl⟩
  | cons g older ih =>
    cases rs with
    | nil => simp [history] at h
    | cons r rs => exact ih (List.cons.inj h).2

/-! ## The two tables -/

theorem history_tables (hs : s.Tidy) (t : Nat) (rs : List Request) :
    history Tables.answer t s.tables rs = (history answer t s rs).map (Step.map tables) := by
  induction rs generalizing t s with
  | nil => rfl
  | cons r rs ih =>
    simp only [history, List.map_cons, tables_answer hs]
    rw [ih (hs.answer _ _ _)]
    rfl

/-! ## Deadlines -/

/-- The step gives the key a deadline. -/
def Step.Gives (e : Step Store) (key : String) (d : Nat) : Prop :=
  e.request.key = key ∧ e.request.operation.deadline? e.now = some d

/-- **A deadline that is seen after some steps was given in one of them or seen before them.** -/
theorem deadlineAt_of_history (hs : s.Tidy) {rs : List Request} {newer rest : List (Step Store)}
    {last : Step Store} (h : history answer t s rs = newer ++ last :: rest)
    (hd : last.after.deadlineAt last.now key = some d) :
    (∃ e ∈ newer ++ [last], e.Gives key d) ∨ s.deadlineAt t key = some d := by
  induction newer generalizing t s rs with
  | nil =>
    cases rs with
    | nil => simp [history] at h
    | cons r rs =>
      obtain ⟨rfl, -⟩ := List.cons.inj h
      rcases hs.deadlineAt_answer hd with ⟨rfl, hg⟩ | hd
      · exact .inl ⟨_, by simp, rfl, hg⟩
      · exact .inr (hs.deadlineAt_of_le (Nat.le_add_right t _) hd)
  | cons g newer ih =>
    cases rs with
    | nil => simp [history] at h
    | cons r rs =>
      obtain ⟨rfl, htail⟩ := List.cons.inj h
      rcases ih (hs.answer _ _ _) htail with ⟨e, he, hg⟩ | hd
      · exact .inl ⟨e, List.mem_cons_of_mem _ he, hg⟩
      · rcases hs.deadlineAt_answer hd with ⟨rfl, hg⟩ | hd
        · exact .inl ⟨_, List.mem_cons_self, rfl, hg⟩
        · exact .inr (hs.deadlineAt_of_le (Nat.le_add_right t _) hd)

/-- Once a key has been seen without a hash, it has no deadline but those given since. -/
def ForgetsDeadlines (steps : List (Step Store)) : Prop :=
  ∀ older e newer last rest key d, steps = older ++ e :: (newer ++ last :: rest) →
    (e.after.contains e.now key).1 = false → last.after.deadlineAt last.now key = some d →
    ∃ g ∈ newer ++ [last], g.Gives key d

theorem forgetsDeadlines_history (hs : s.Tidy) (t : Nat) (rs : List Request) :
    ForgetsDeadlines (history answer t s rs) := by
  intro older e newer last rest key d h hgone hd
  have hmem : e ∈ history answer t s rs := by simp [h]
  obtain ⟨rs', hrest⟩ := history_of_append h
  refine (deadlineAt_of_history (tidy_of_mem_history hs hmem) hrest.symm hd).resolve_right ?_
  have hnone : (e.after.purge e.now).hash? key = none := by simpa [contains] using hgone
  simp [deadlineAt, hnone]

/-- A hash that lost its last field under a deadline of 5 and is set anew is still there at 11. -/
example :
    (history answer 0 {} [⟨0, "k", .setAll [("a", "1")] (some 5)⟩, ⟨1, "k", .adjust "a" (-1)⟩,
      ⟨1, "k", .set "a" "2"⟩, ⟨9, "k", .getAll⟩]).map (·.reply) =
    [.done, .count (.ok (some 0)), .done, .fields [("a", "2")]] := by cbv

/-! ## Each step -/

/-- What holds of a step from a tidy store. -/
structure Step.Sound (e : Step Store) : Prop where
  /-- No hash is empty. -/
  ne_nil : ∀ key h, e.after.hash? key = some h → h.fields ≠ []
  /-- A key is there exactly when it has fields, whenever one looks. -/
  contains_iff : ∀ now key,
    (e.after.contains now key).1 = true ↔ (e.after.getAll now key).1 ≠ []
  /-- The other keys change by expiry only. -/
  others : ∀ key ≠ e.request.key, e.after.hash? key = e.before.hash? key ∨
    e.after.hash? key = none ∧ ∃ h, e.before.hash? key = some h ∧ expired e.now h = true
  /-- An adjustment answers a count and does what can be relied on. -/
  adjusted : ∀ field delta, e.request.operation = .adjust field delta →
    ∃ r, e.reply = .count r ∧ Adjusted e.now e.before e.request.key field delta r e.after

theorem Step.sound {e : Step Store} (hs : e.before.Tidy)
    (he : (e.reply, e.after) = answer e.now e.before e.request.key e.request.operation) :
    e.Sound := by
  obtain ⟨hreply, hafter⟩ := Prod.mk.inj he
  have htidy : e.after.Tidy := hafter ▸ hs.answer e.now e.request.key e.request.operation
  refine ⟨fun _ _ => htidy.fields_ne_nil, htidy.contains_iff, fun key hne => ?_,
    fun field delta hop => ?_⟩
  · rw [hafter]
    exact hs.hash?_answer_of_ne e.now e.request.operation hne
  · rw [hop] at hreply hafter
    refine ⟨_, hreply, ?_⟩
    rw [hafter]
    exact adjusted_adjust e.now e.before e.request.key field delta

/-- **Through every row of operations the store stays one of hashes with fields, and what it says of a
deadline is about the hash that is there.** -/
theorem sound_history (start : Nat) (rs : List Request) :
    (∀ e ∈ history answer start {} rs, e.Sound) ∧
      ForgetsDeadlines (history answer start {} rs) ∧
      history Tables.answer start {} rs = (history answer start {} rs).map (Step.map tables) ∧
      ∀ e ∈ history Tables.answer start {} rs, e.after.Aligned := by
  have htables : history Tables.answer start {} rs =
      (history answer start {} rs).map (Step.map tables) := history_tables tidy_empty start rs
  refine ⟨fun e he => ?_, forgetsDeadlines_history tidy_empty start rs, htables, fun e he => ?_⟩
  · obtain ⟨hbefore, hstep⟩ := eq_answer_of_mem_history tidy_empty he
    exact Step.sound hbefore hstep
  · rw [htables] at he
    obtain ⟨g, hg, rfl⟩ := List.mem_map.mp he
    exact (tidy_of_mem_history tidy_empty hg).aligned

end DocSearch.Store
