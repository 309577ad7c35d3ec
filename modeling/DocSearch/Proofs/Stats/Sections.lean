import Mathlib
import DocSearch.Proofs.Assoc
import DocSearch.Stats.Dashboard
/-!
# Sections of a dashboard, and the parts behind them

A dashboard has three sections, each of which shows one part of the aggregations. All parts are read
together, so that one that cannot be read takes the others with it.

* `fieldOr`, **`Aggregations.read_obj`**: aggregations are read part by part, and fail with any of them.
* `Aggregations.Part`: the parts; `Part.alone`: an object with one part only; `Part.shown`: the section
  of a dashboard that shows a part.
* **`Part.read_cases`**: all parts can be read, each as if it stood alone, or none are.
* **`Part.shown_iff`**: a section shows its own part exactly if all parts can be read, or if there is
  nothing to show.
-/

namespace DocSearch

/-! ## Reading parts -/

theorem Json.fieldForms_eq_map (fields : List (String × Json)) :
    Json.fieldForms fields = fields.map fun f => (f.1, f.2.toForm) := by
  induction fields with
  | nil => rfl
  | cons f fields ih => rw [Json.fieldForms, ih, List.map_cons]

theorem Json.lookup_fieldForms (fields : List (String × Json)) (name : String) :
    (Json.fieldForms fields).lookup name = (fields.lookup name).map Json.toForm := by
  rw [Json.fieldForms_eq_map, Assoc.lookup_map]

theorem knownOnce_of_nodup {α : Type} {fields : List (String × α)} (h : (fields.map Prod.fst).Nodup)
    (names : List String) : knownOnce names fields = true := by
  rw [knownOnce, List.all_eq_true]
  intro name _
  have hcount := List.nodup_iff_count_le_one.mp h name
  rw [List.count, List.countP_map, List.countP_eq_length_filter] at hcount
  simpa [Function.comp_def, beq_eq_decide] using hcount

/-- The value of a field, or a default where there is none. -/
def fieldOr {α : Type} (default : α) (read : Reader α) : Option Json → Option α
  | some j => read j.toForm
  | none => some default

theorem defaulted_fieldForms {α : Type} (fields : List (String × Json)) (positional : Bool) (name : String)
    (default : α) (read : Reader α) :
    Record.defaulted ⟨Json.fieldForms fields, positional⟩ name default read =
      fieldOr default read (fields.lookup name) := by
  rw [Record.defaulted, Record.find, Json.lookup_fieldForms]
  cases fields.lookup name <;> rfl

/-- **The aggregations of an object are read part by part, and fail with any of them.** -/
theorem Aggregations.read_obj {fields : List (String × Json)} (h : (fields.map Prod.fst).Nodup) :
    Aggregations.read (Json.obj fields).toForm =
      (fieldOr [] (readBuckets TypeBucket.read) (fields.lookup "content_type")).bind fun types =>
        (fieldOr [] (readBuckets DayBucket.read) (fields.lookup "proc_rate")).bind fun days =>
          (fieldOr {} SizeStats.read (fields.lookup "proc_total")).map fun total =>
            ⟨types, days, total⟩ := by
  have hnodup : ((Json.fieldForms fields).map Prod.fst).Nodup := by
    rw [Json.fieldForms_eq_map, List.map_map]
    exact h
  rw [Aggregations.read, Json.toForm, Form.record?, if_pos (knownOnce_of_nodup hnodup _)]
  simp only [Option.bind_eq_bind, Option.bind_some, defaulted_fieldForms]
  simp only [Option.map_eq_bind]
  rfl

/-! ## Parts and sections -/

namespace Aggregations

/-- The parts of the aggregations behind a dashboard. -/
inductive Part where
  | types
  | days
  | total
deriving DecidableEq, Repr

namespace Part

/-- The field of a part. -/
def field : Part → String
  | types => "content_type"
  | days => "proc_rate"
  | total => "proc_total"

/-- The field of a dashboard that shows a part. -/
def place : Part → String
  | types => "contentType"
  | days => "procRate"
  | total => "procTotal"

/-- The section of a dashboard that shows a part. -/
def shown (p : Part) (d : Dashboard) : Option Json := d.toJson.field? p.place

/-- The fields of an object that are of one part. -/
def alone (p : Part) (fields : List (String × Json)) : List (String × Json) :=
  fields.filter (·.1 = p.field)

/-- A part can be read, or is missing. -/
def Readable (p : Part) (fields : List (String × Json)) : Prop :=
  (Aggregations.read (Json.obj (p.alone fields)).toForm).isSome

variable {p q : Part} {fields : List (String × Json)} {a b : Aggregations}

theorem lookup_alone (p q : Part) (fields : List (String × Json)) :
    (p.alone fields).lookup q.field = if q = p then fields.lookup q.field else none := by
  split_ifs with hqp
  · subst hqp
    exact Assoc.lookup_filter fun f _ hf => decide_eq_true hf
  · rw [List.lookup_eq_none_iff]
    intro f hf
    have hfield : f.1 = p.field := of_decide_eq_true (List.mem_filter.mp hf).2
    rw [hfield]
    revert hqp
    cases p <;> cases q <;> decide

/-- Aggregations tell the same in one part. -/
def Agree (p : Part) (a b : Aggregations) : Prop :=
  match p with
  | types => a.types = b.types
  | days => a.days = b.days
  | total => a.total = b.total

theorem Agree.shown (h : p.Agree a b) (today : Day) :
    p.shown (Dashboard.project a today) = p.shown (Dashboard.project b today) := by
  cases p with
  | types =>
    obtain ⟨t, d, s⟩ := a
    obtain rfl : t = b.types := h
    rfl
  | days =>
    obtain ⟨t, d, s⟩ := a
    obtain rfl : d = b.days := h
    rfl
  | total =>
    obtain ⟨t, d, s⟩ := a
    obtain rfl : s = b.total := h
    rfl

theorem read_alone (h : (fields.map Prod.fst).Nodup) (p : Part) :
    Aggregations.read (Json.obj (p.alone fields)).toForm =
      match p with
      | types => (fieldOr [] (readBuckets TypeBucket.read) (fields.lookup "content_type")).map
          fun types => { types := types }
      | days => (fieldOr [] (readBuckets DayBucket.read) (fields.lookup "proc_rate")).map
          fun days => { days := days }
      | total => (fieldOr {} SizeStats.read (fields.lookup "proc_total")).map
          fun total => { total := total } := by
  have hnodup : ((p.alone fields).map Prod.fst).Nodup := h.sublist (List.filter_sublist.map Prod.fst)
  have htypes : (p.alone fields).lookup "content_type" = _ := lookup_alone p types fields
  have hdays : (p.alone fields).lookup "proc_rate" = _ := lookup_alone p days fields
  have htotal : (p.alone fields).lookup "proc_total" = _ := lookup_alone p total fields
  rw [read_obj hnodup, htypes, hdays, htotal]
  cases p with
  | types => exact (Option.map_eq_bind ..).symm
  | days => exact (Option.map_eq_bind ..).symm
  | total => rfl

/-- **Either all parts can be read, each as if it stood alone, or one cannot, and then none are.** -/
theorem read_cases (h : (fields.map Prod.fst).Nodup) :
    (∃ a, Aggregations.read (Json.obj fields).toForm = some a ∧
      ∀ p : Part, ∃ b, Aggregations.read (Json.obj (p.alone fields)).toForm = some b ∧ p.Agree a b) ∨
    Aggregations.read (Json.obj fields).toForm = none ∧ ∃ p : Part, ¬ p.Readable fields := by
  have htypes := read_alone h types
  have hdays := read_alone h days
  have htotal := read_alone h total
  rw [read_obj h]
  dsimp only at htypes hdays htotal
  cases ht : fieldOr [] (readBuckets TypeBucket.read) (fields.lookup "content_type") with
  | none =>
    rw [ht] at htypes
    exact .inr ⟨rfl, types, by simp [Readable, htypes]⟩
  | some t =>
    rw [ht] at htypes
    cases hd : fieldOr [] (readBuckets DayBucket.read) (fields.lookup "proc_rate") with
    | none =>
      rw [hd] at hdays
      exact .inr ⟨rfl, days, by simp [Readable, hdays]⟩
    | some d =>
      rw [hd] at hdays
      cases hs : fieldOr {} SizeStats.read (fields.lookup "proc_total") with
      | none =>
        rw [hs] at htotal
        exact .inr ⟨rfl, total, by simp [Readable, htotal]⟩
      | some s =>
        rw [hs] at htotal
        refine .inl ⟨⟨t, d, s⟩, rfl, fun p => ?_⟩
        cases p with
        | types => exact ⟨_, htypes, rfl⟩
        | days => exact ⟨_, hdays, rfl⟩
        | total => exact ⟨_, htotal, rfl⟩

/-- **A section shows its own part exactly if all parts can be read, or if there is nothing to show.**
Where one part cannot be read, all sections are empty. -/
theorem shown_iff (h : (fields.map Prod.fst).Nodup) (today : Day) :
    ((∃ q, ¬ Readable q fields) →
      Dashboard.project (.ofJson (.obj fields)) today = Dashboard.project {} today) ∧
    ∀ p : Part, p.shown (Dashboard.project (.ofJson (.obj fields)) today) =
        p.shown (Dashboard.project (.ofJson (.obj (p.alone fields))) today) ↔
      (∀ q, Readable q fields) ∨
        p.shown (Dashboard.project {} today) =
          p.shown (Dashboard.project (.ofJson (.obj (p.alone fields))) today) := by
  rcases read_cases h with ⟨a, ha, hparts⟩ | ⟨hnone, q, hq⟩
  · have hreadable : ∀ q, Readable q fields := by
      intro q
      obtain ⟨b, hb, -⟩ := hparts q
      rw [Readable, hb]
      rfl
    refine ⟨fun ⟨q, hq⟩ => absurd (hreadable q) hq, fun p => ?_⟩
    obtain ⟨b, hb, hagree⟩ := hparts p
    rw [Aggregations.ofJson, Aggregations.ofJson, ha, hb]
    exact iff_of_true (hagree.shown today) (.inl hreadable)
  · have hempty : Aggregations.ofJson (.obj fields) = {} := by
      rw [Aggregations.ofJson, hnone]
      rfl
    rw [hempty]
    exact ⟨fun _ => rfl, fun p => (or_iff_right fun hall => hq (hall q)).symm⟩

/-- A type of content with a number for its name, beside a day with three files. -/
def numbered : List (String × Json) := [
  ("content_type", .obj [("buckets", .arr [.obj [("doc_count", .nat 2), ("key", .nat 5)]])]),
  ("proc_rate", .obj [("buckets", .arr [.obj [("key", .nat 1710374400000),
    ("source", .obj [("buckets", .arr [.obj [("doc_count", .nat 3), ("key", .str "mail")]])])]])]),
  ("proc_total", .obj [("count", .nat 3)])]

theorem shown_iff_numbered :
    (numbered.map Prod.fst).Nodup ∧ ¬ Readable types numbered ∧ Readable days numbered ∧
      Readable total numbered ∧
      Dashboard.project (.ofJson (.obj numbered)) ⟨19796⟩ = Dashboard.project {} ⟨19796⟩ := by
  have hnodup : (numbered.map Prod.fst).Nodup := by decide
  have htypes : ¬ Readable types numbered := by
    unfold Readable
    decide +kernel
  refine ⟨hnodup, htypes, ?_, ?_, (shown_iff hnodup ⟨19796⟩).1 ⟨types, htypes⟩⟩
  all_goals
    unfold Readable
    decide +kernel

/-- The three files are not shown for the sake of the type. -/
theorem not_shown_numbered :
    ¬ ∀ p : Part, p.shown (Dashboard.project (.ofJson (.obj numbered)) ⟨19796⟩) =
      p.shown (Dashboard.project (.ofJson (.obj (p.alone numbered))) ⟨19796⟩) := by
  intro h
  have hcount := congrArg (fun j => (j.bind (·.field? "totalCount")).bind Json.word?) (h total)
  exact absurd hcount (by decide +kernel)

end Part

end Aggregations

end DocSearch
