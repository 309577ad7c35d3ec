import Mathlib
import DocSearch.Proofs.Cache.Guarded
import DocSearch.Proofs.Store.Operations
/-!
# Rows of the cache are read back as they were written

A row is written in two places. A hydration writes the rows of all counts at once, and a change of a tag moves
the number in one row. Both have to mean the same field by a tag, and a reader has to find the tag in it.

* `Store.CountsFrom`: the move of a number finds it in its field. **`Store.countsFrom_setAll`**: so it does
  behind a write of rows, until the hash expires; `countsFrom_hydrated`: so it does behind a hydration.
* `Cache.written`, `told`, `moved`, `applied`: of the steps of a run, the rows that are written, the counts
  that are told, the numbers that are moved and the changes that are applied.
* `Cache.Recorded`: rows are those of the counts told, and moves those of the changes applied, each under the
  field of its tag. `Cache.Records`: so are all runs of a call, whatever the store and the index are; rules
  `Records.bind`, `Records.between`, **`records_step`**.
* **`records_getTags`**, `records_addTag`, `records_removeTag`, `records_flush`: so are all calls of the cache.
* **`rows_read_back`**: the row of a tag and a number is read as these, and moves find it.
-/

namespace DocSearch

/-! ## A move of a number in the store -/

namespace Store

variable {s : Store} {now u : Nat} {key field : String} {n : Nat} {delta : Int}

/-- A move finds the number `n` in the field, leaves the sum there if it is positive, and no field
otherwise, and touches no other field. -/
structure CountsFrom (u : Nat) (s : Store) (key field : String) (n : Nat) (delta : Int) : Prop where
  reply : (s.adjust u key field delta).1 = .ok (some (n + delta))
  sum : ((s.adjust u key field delta).2.fieldsOf key).lookup field =
    if 0 < n + delta then some (toString (n + delta)) else none
  others : ∀ f ≠ field, ((s.adjust u key field delta).2.fieldsOf key).lookup f =
    ((s.purge u).fieldsOf key).lookup f

theorem countsFrom_of_lookup (hn : n < Text.signedBound)
    (hl : ((s.purge u).fieldsOf key).lookup field = some (toString n)) :
    CountsFrom u s key field n delta := by
  have hread : Text.integer? (toString n) = some (n : Int) := Text.integer?_toString hn
  have hcounter : counter ((s.purge u).fieldsOf key) field = .ok (n : Int) := by
    simp only [counter, hl, hread]
  have ha := adjusted_adjust u s key field delta
  suffices hr : (s.adjust u key field delta).1 = .ok (some (n + delta)) from
    ⟨hr, (ha.counted _ hr).2, ha.others⟩
  cases hr : (s.adjust u key field delta).1 with
  | error e =>
    obtain ⟨value, hvalue, hunread, -⟩ := (ha.error_iff e).mp hr
    obtain rfl := Option.some.inj (hl.symm.trans hvalue)
    cases hread.symm.trans hunread
  | ok r =>
    cases r with
    | none =>
      have habsent := ha.absent_iff.mp hr
      simp [fieldsOf, habsent] at hl
    | some m =>
      obtain ⟨old, hold, rfl⟩ := (ha.counted m hr).1
      rw [Except.ok.inj (hold.symm.trans hcounter)]

/-- **A move finds the number that was written**, however many rows were written and whatever stood in
the hash before, as long as the hash has not expired. -/
theorem countsFrom_setAll (hs : s.Tidy) (hn : n < Text.signedBound)
    {before behind : List (String × String)} (hbehind : ∀ r ∈ behind, r.1 ≠ field)
    {ttl : Option Nat}
    (hu : ((s.setAll now key (before ++ (field, toString n) :: behind) ttl).contains u key).1 = true) :
    CountsFrom u (s.setAll now key (before ++ (field, toString n) :: behind) ttl) key field n delta := by
  have htidy : (s.setAll now key (before ++ (field, toString n) :: behind) ttl).Tidy :=
    hs.answer now key (.setAll _ ttl)
  apply countsFrom_of_lookup hn
  rw [htidy.fieldsOf_purge hu, fieldsOf_setAll s now key (by simp) ttl]
  exact Assoc.lookup_setAll_append before (toString n) hbehind _

end Store

/-! ## What a run records -/

namespace Cache

variable {α β : Type}

/-- The steps of a run: actions with what they come back with. -/
abbrev Steps : Type := List ((a : Action) × a.Reply)

/-- The rows that the store is told to write, each time all at once. -/
def written (steps : Steps) : List (List (String × String)) :=
  steps.filterMap fun
    | ⟨.writeAll rows, _⟩ => some rows
    | _ => none

/-- The counts that the index tells, each time there are any. -/
def told (steps : Steps) : List (List TagCount) :=
  steps.filterMap fun
    | ⟨.count, .ok (c :: counts)⟩ => some (c :: counts)
    | _ => none

/-- The numbers that the store is told to move: their fields, and by how much. -/
def moved (steps : Steps) : List (String × Int) :=
  steps.filterMap fun
    | ⟨.adjust field delta, _⟩ => some (field, delta)
    | _ => none

/-- The changes that the index has applied: the tags, and how many files more carry them. -/
def applied (steps : Steps) : List (Tag × Int) :=
  steps.filterMap fun
    | ⟨.add _ tag, .ok .applied⟩ => some (tag, 1)
    | ⟨.remove _ tag, .ok .applied⟩ => some (tag, -1)
    | _ => none

/-- Rows are written for the counts that are told, and numbers are moved for the changes that are applied,
each under the field of its tag. -/
structure Recorded (steps : Steps) : Prop where
  written : written steps =
    (told steps).map fun counts => counts.map fun c => (c.tag.cacheField, toString c.files)
  moved : moved steps = (applied steps).map fun (tag, delta) => (tag.cacheField, delta)

theorem recorded_nil : Recorded [] := ⟨rfl, rfl⟩

theorem Recorded.append {l l' : Steps} (h : Recorded l) (h' : Recorded l') : Recorded (l ++ l') := by
  constructor
  · rw [Cache.written, told, List.filterMap_append, List.filterMap_append, List.map_append]
    exact congrArg₂ _ h.written h'.written
  · rw [Cache.moved, applied, List.filterMap_append, List.filterMap_append, List.map_append]
    exact congrArg₂ _ h.moved h'.moved

/-- Whatever the store and the index come back with, a run of the call is recorded. -/
def Records (c : Call α) : Prop :=
  ∀ (W : Type) (perform : (a : Action) → W → a.Reply × W) (w : W),
    Recorded (c.run.trace perform w)

section Records

variable {c : Call α} {tag : Tag}

theorem Records.bind {f : α → Call β} (hc : Records c) (hf : ∀ a, Records (f a)) :
    Records (c >>= f) := by
  intro W perform w
  rw [Procedure.trace_exceptT_bind]
  refine (hc W perform w).append ?_
  cases (c.run.run perform w).1 with
  | ok a => exact hf a W perform _
  | error e => exact recorded_nil

theorem Records.between {before after : Action} (hb : ∀ r, Recorded [⟨before, r⟩])
    (ha : ∀ r, Recorded [⟨after, r⟩]) (hc : Records c) : Records (between before after c) := by
  intro W perform w
  rw [run_between]
  change Recorded ([⟨before, (perform before w).1⟩] ++ (c.run.bind _).trace perform _)
  rw [Procedure.trace_bind]
  exact (hb _).append ((hc W perform _).append (ha _))

theorem records_step {f : α → Call β} (step : Except ProviderError α → (a : Action) × a.Reply)
    (hc : ∀ (W : Type) (perform : (a : Action) → W → a.Reply × W) (w : W),
      c.run.trace perform w = [step (c.run.run perform w).1])
    (hok : ∀ (a : α) (W : Type) (perform : (a : Action) → W → a.Reply × W) (w : W),
      Recorded (step (.ok a) :: (f a).run.trace perform w))
    (herror : ∀ e, Recorded [step (.error e)]) : Records (c >>= f) := by
  intro W perform w
  rw [Procedure.trace_exceptT_bind, hc]
  cases (c.run.run perform w).1 with
  | ok a => exact hok a W perform _
  | error e => exact herror e

theorem records_pure (a : α) : Records (pure a) := fun _ _ _ => recorded_nil

theorem records_isHydrated : Records isHydrated := fun _ _ _ => ⟨rfl, rfl⟩

theorem records_fill : Records fill := by
  have hobserve : Records (always .observe) := fun _ _ _ => ⟨rfl, rfl⟩
  refine hobserve.bind fun _ => ?_
  refine records_step (fun r => ⟨.count, r⟩) (fun _ _ _ => rfl) (fun counts W perform w => ?_)
    fun _ => ⟨rfl, rfl⟩
  cases counts <;> exact ⟨rfl, rfl⟩

theorem records_hydrate : Records hydrate := by
  refine records_isHydrated.bind fun found => ?_
  split
  · exact records_pure ()
  refine Records.between (fun _ => ⟨rfl, rfl⟩) (fun _ => ⟨rfl, rfl⟩) ?_
  refine records_isHydrated.bind fun found => ?_
  split
  · exact records_pure ()
  · exact records_fill.between (fun _ => ⟨rfl, rfl⟩) fun _ => ⟨rfl, rfl⟩

theorem records_getTags : Records getTags := by
  have hreadAll : Records (call (.ofAction Action.readAll)) := fun _ _ _ => ⟨rfl, rfl⟩
  exact records_hydrate.bind fun _ => hreadAll.bind fun _ => records_pure _

/-- Behind a change that the index has applied the number of its tag is moved first of all. -/
theorem recorded_afterChange {step : (a : Action) × a.Reply} {delta : Int}
    (hstep : ∀ r, Recorded [step, ⟨.adjust tag.cacheField delta, r⟩]) {W : Type}
    (perform : (a : Action) → W → a.Reply × W) (w : W) :
    Recorded (step :: (afterChange .applied tag delta).run.trace perform w) := by
  have happlied : afterChange .applied tag delta =
      call (.ofAction (Action.adjust tag.cacheField delta)) >>= fun _ => getTags := rfl
  rw [happlied, Procedure.trace_exceptT_bind]
  refine (hstep (perform (.adjust tag.cacheField delta) w).1).append ?_
  split
  · exact records_getTags W perform _
  · exact recorded_nil

theorem records_change {c : Call TagChange} {delta : Int}
    (step : Except ProviderError TagChange → (a : Action) × a.Reply)
    (hc : ∀ (W : Type) (perform : (a : Action) → W → a.Reply × W) (w : W),
      c.run.trace perform w = [step (c.run.run perform w).1])
    (happlied : ∀ r, Recorded [step (.ok .applied), ⟨.adjust tag.cacheField delta, r⟩])
    (hunchanged : Recorded [step (.ok .unchanged)]) (herror : ∀ e, Recorded [step (.error e)]) :
    Records (c >>= fun change => afterChange change tag delta) := by
  refine records_step step hc (fun change W perform w => ?_) herror
  cases change with
  | applied => exact recorded_afterChange happlied perform w
  | unchanged => exact hunchanged.append (records_getTags W perform w)

theorem records_addTag (file : String) (tag : Tag) : Records (addTag file tag) :=
  records_change (fun r => ⟨.add file tag, r⟩) (fun _ _ _ => rfl) (fun _ => ⟨rfl, rfl⟩) ⟨rfl, rfl⟩
    fun _ => ⟨rfl, rfl⟩

theorem records_removeTag (file : String) (tag : Tag) : Records (removeTag file tag) :=
  records_change (fun r => ⟨.remove file tag, r⟩) (fun _ _ _ => rfl) (fun _ => ⟨rfl, rfl⟩) ⟨rfl, rfl⟩
    fun _ => ⟨rfl, rfl⟩

theorem records_flush : Records flush := by
  have hdelete : Records (call (.ofAction Action.delete)) := fun _ _ _ => ⟨rfl, rfl⟩
  exact hdelete.between (fun _ => ⟨rfl, rfl⟩) fun _ => ⟨rfl, rfl⟩

end Records

/-! ## Rows and counts -/

theorem ofRow?_sum (t : Tag) {k : Int} (hpos : 0 < k) (hmax : k ≤ 2 ^ 63 - 1) :
    TagCount.ofRow? t.cacheField (toString k) = some ⟨t.name, t.type, k.toNat⟩ := by
  have hbound : Text.signedBound = 2 ^ 63 := by decide
  obtain ⟨m, rfl⟩ := Int.eq_ofNat_of_zero_le hpos.le
  exact TagCount.ofRow?_cacheField t (by omega) (by omega)

/-- **A move finds the number that a hydration has written for its tag.** -/
theorem countsFrom_hydrated {s : Store} (hs : s.Tidy) {now u : Nat} {key : String} {ttl : Option Nat}
    {t : Tag} {n : Nat} (hn : n < Text.signedBound) {before behind : List TagCount}
    (hbehind : ∀ c ∈ behind, c.tag ≠ t) (delta : Int) :
    let hydrated :=
      s.setAll now key ((before ++ ⟨t.name, t.type, n⟩ :: behind).map TagCount.toRow) ttl
    (hydrated.contains u key).1 = true → hydrated.CountsFrom u key t.cacheField n delta := by
  have hrows : (before ++ ⟨t.name, t.type, n⟩ :: behind).map TagCount.toRow =
      before.map TagCount.toRow ++ (t.cacheField, toString n) :: behind.map TagCount.toRow := by
    rw [List.map_append, List.map_cons, TagCount.toRow_eq]
    rfl
  have hother : ∀ r ∈ behind.map TagCount.toRow, r.1 ≠ t.cacheField := by
    intro r hr he
    obtain ⟨c, hc, rfl⟩ := List.mem_map.mp hr
    rw [TagCount.toRow_eq] at he
    exact hbehind c hc (Tag.cacheField_injective he)
  rw [hrows]
  exact Store.countsFrom_setAll hs hn hother

/-- **Rows of the cache are read back as they were written.** The row of a tag and a number is read as
that tag with that number. All calls write rows and move numbers under the fields of their tags. So a move
finds the number that a hydration has written for its tag, as long as the hash has not expired, and the sum
that it leaves is read back too. No other tag has the same field, and no row is read as a count below one. -/
theorem rows_read_back {t : Tag} {n : Nat} (hpos : 1 ≤ n) (hmax : n ≤ 2 ^ 63 - 1) :
    TagCount.ofRow? t.cacheField (toString n) = some ⟨t.name, t.type, n⟩ ∧
    (Records getTags ∧ Records flush ∧ ∀ file, Records (addTag file t) ∧ Records (removeTag file t)) ∧
    (∀ (s : Store) (now u : Nat) (key : String) (ttl : Option Nat) (before behind : List TagCount)
        (delta : Int),
      s.Tidy → (∀ c ∈ behind, c.tag ≠ t) → n + delta ≤ 2 ^ 63 - 1 →
      let hydrated :=
        s.setAll now key ((before ++ ⟨t.name, t.type, n⟩ :: behind).map TagCount.toRow) ttl
      (hydrated.contains u key).1 = true →
        hydrated.CountsFrom u key t.cacheField n delta ∧
        (0 < n + delta → TagCount.ofRow? t.cacheField (toString (n + delta)) =
          some ⟨t.name, t.type, (n + delta).toNat⟩)) ∧
    (∀ t' : Tag, t'.cacheField = t.cacheField → t' = t) ∧
    ∀ field value c, TagCount.ofRow? field value = some c → 1 ≤ c.files := by
  have hbound : Text.signedBound = 2 ^ 63 := by decide
  have hn : n < Text.signedBound := by omega
  refine ⟨TagCount.ofRow?_cacheField t hpos hn,
    ⟨records_getTags, records_flush, fun file => ⟨records_addTag file t, records_removeTag file t⟩⟩,
    ?_, fun t' => Tag.cacheField_injective, ?_⟩
  · intro s now u key ttl before behind delta hs hbehind hsum hydrated hthere
    exact ⟨countsFrom_hydrated hs hn hbehind delta hthere, fun h => ofRow?_sum t h hsum⟩
  · intro field value c hc
    exact (TagCount.ofRow?_eq_some_iff.mp hc).positive

/-- Counts of a name that starts with a space, at the largest number that can be raised, and of an empty
name. -/
def spaced : List TagCount :=
  [⟨"pdf", .auto, 2⟩, ⟨" tax 2024", .source, 9223372036854775806⟩, ⟨"", .source, 1⟩]

theorem rows_read_back_spaced :
    let hydrated := ({} : Store).setAll 3 tagsKey (spaced.map TagCount.toRow) (some 5)
    9223372036854775806 ≤ 2 ^ 63 - 1 ∧
      TagCount.ofRow? "source  tax 2024" "9223372036854775806" =
        some ⟨" tax 2024", .source, 9223372036854775806⟩ ∧
      (hydrated.contains 7 tagsKey).1 = true ∧
      (hydrated.adjust 7 tagsKey "source  tax 2024" 1).1 = .ok (some 9223372036854775807) := by
  have hmax : 9223372036854775806 ≤ 2 ^ 63 - 1 := by decide
  obtain ⟨hread, -, hmoves, -⟩ := rows_read_back (t := ⟨.source, " tax 2024"⟩) (by decide) hmax
  have hcontains : ((({} : Store).setAll 3 tagsKey (spaced.map TagCount.toRow) (some 5)).contains 7
      tagsKey).1 = true := by decide
  have hmove := hmoves {} 3 7 tagsKey (some 5) [⟨"pdf", .auto, 2⟩] [⟨"", .source, 1⟩] 1
    Store.tidy_empty (by decide) (by decide) hcontains
  exact ⟨hmax, hread, hcontains, hmove.1.reply⟩

end Cache

end DocSearch
