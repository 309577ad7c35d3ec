import Mathlib
import DocSearch.Console.Answer
import DocSearch.Proofs.Json.Plain
import DocSearch.Proofs.Json.Record
import DocSearch.Stats.Dashboard
/-!
# The dashboard read back

* `Aggregations.Words`: all numbers of files are words, as they are in **`words_ofJson`**: all
  aggregations that were read.
* `mem_sourceNames`: the names are the sources of all buckets, but for one that would stand where the
  date stands.
* `DayEntry.fields`: a day as it is written, with `date_fields` and `count_fields`: its date and counts.
* `DayEntry.ReadAs`, **`read_project`**: the console reads what a dashboard tells.
-/

namespace DocSearch

/-! ## Numbers of files -/

theorem yields_keyCount : KeyCount.read.Yields fun k => k.count < Text.wordBound := by
  intro f k h
  obtain ⟨r, -, h⟩ := Option.bind_eq_some_iff.mp h
  obtain ⟨key, -, h⟩ := Option.bind_eq_some_iff.mp h
  obtain ⟨count, hcount, h⟩ := Option.bind_eq_some_iff.mp h
  cases h
  exact yields_word.defaulted (by decide) hcount

theorem yields_buckets {α : Type} {P : α → Prop} {read : Reader α} (h : read.Yields P) :
    (readBuckets read).Yields fun l => ∀ a ∈ l, P a := by
  intro f l hl
  obtain ⟨r, -, hl⟩ := Option.bind_eq_some_iff.mp hl
  exact h.list.defaulted (List.forall_mem_nil P) hl

theorem yields_dayBucket :
    DayBucket.read.Yields fun b => ∀ k ∈ b.sources, k.count < Text.wordBound := by
  intro f b h
  obtain ⟨r, -, h⟩ := Option.bind_eq_some_iff.mp h
  obtain ⟨key, -, h⟩ := Option.bind_eq_some_iff.mp h
  obtain ⟨sources, hsources, h⟩ := Option.bind_eq_some_iff.mp h
  cases h
  exact (yields_buckets yields_keyCount).defaulted (List.forall_mem_nil _) hsources

theorem yields_sizeStats : SizeStats.read.Yields fun s => s.count < Text.wordBound := by
  intro f s h
  obtain ⟨r, -, h⟩ := Option.bind_eq_some_iff.mp h
  obtain ⟨count, hcount, h⟩ := Option.bind_eq_some_iff.mp h
  have hword : count < Text.wordBound := yields_word.defaulted (by decide) hcount
  obtain ⟨sum, -, h⟩ := Option.bind_eq_some_iff.mp h
  obtain ⟨avg, -, h⟩ := Option.bind_eq_some_iff.mp h
  obtain ⟨min, -, h⟩ := Option.bind_eq_some_iff.mp h
  obtain ⟨max, -, h⟩ := Option.bind_eq_some_iff.mp h
  cases h
  exact hword

/-- The numbers of files are words. -/
structure Aggregations.Words (a : Aggregations) : Prop where
  days : ∀ b ∈ a.days, ∀ k ∈ b.sources, k.count < Text.wordBound
  total : a.total.count < Text.wordBound

theorem Aggregations.words_empty : ({} : Aggregations).Words :=
  ⟨List.forall_mem_nil _, by decide⟩

/-- **Aggregations that were read hold words.** -/
theorem Aggregations.words_ofJson (j : Json) : (ofJson j).Words := by
  unfold ofJson
  cases h : read j.toForm with
  | none => exact words_empty
  | some a =>
    obtain ⟨r, -, h⟩ := Option.bind_eq_some_iff.mp h
    obtain ⟨types, -, h⟩ := Option.bind_eq_some_iff.mp h
    obtain ⟨days, hdays, h⟩ := Option.bind_eq_some_iff.mp h
    obtain ⟨total, htotal, h⟩ := Option.bind_eq_some_iff.mp h
    cases h
    exact ⟨(yields_buckets yields_dayBucket).defaulted (List.forall_mem_nil _) hdays,
      yields_sizeStats.defaulted (by decide) htotal⟩

/-! ## The names of the sources -/

theorem firstSeen_concat (names : List String) (n : String) :
    firstSeen (names ++ [n]) =
      if n ∈ firstSeen names then firstSeen names else firstSeen names ++ [n] := by
  rw [firstSeen, List.foldl_append]
  rfl

@[simp] theorem mem_firstSeen {n : String} {names : List String} :
    n ∈ firstSeen names ↔ n ∈ names := by
  induction names using List.reverseRecOn with
  | nil => rfl
  | append_singleton names m ih =>
    rw [firstSeen_concat, List.mem_append, List.mem_singleton]
    split_ifs with hm
    · rw [ih, or_iff_left_of_imp]
      rintro rfl
      exact ih.mp hm
    · rw [List.mem_append, List.mem_singleton, ih]

/-- The sources of all buckets, as often as they stand there. -/
def sourceKeys (buckets : List DayBucket) : List String :=
  buckets.flatMap fun b => b.sources.map (·.key)

theorem mem_sourceNames {n : String} {buckets : List DayBucket} :
    n ∈ sourceNames buckets ↔ n ∈ sourceKeys buckets ∧ n ≠ dateField := by
  rw [sourceNames, mem_firstSeen, List.mem_filter, decide_eq_true_eq]
  rfl

theorem dateField_not_mem_sourceNames (buckets : List DayBucket) :
    dateField ∉ sourceNames buckets :=
  fun h => (mem_sourceNames.mp h).2 rfl

/-! ## Days -/

theorem countOf_lt {b : DayBucket} (h : ∀ k ∈ b.sources, k.count < Text.wordBound) (name : String) :
    b.countOf name < Text.wordBound := by
  unfold DayBucket.countOf
  cases hfind : b.sources.find? (·.key = name) with
  | none => exact (by decide : 0 < Text.wordBound)
  | some k => exact h k (List.mem_of_find?_eq_some hfind)

theorem lookup_dayEntry (buckets : List DayBucket) {names : List String} {name : String}
    (h : name ∈ names) (day : Day) :
    (dayEntry buckets names day).counts.lookup name =
      some (((buckets.find? (·.day = day)).map (·.countOf name)).getD 0) := by
  unfold dayEntry
  dsimp only
  rw [lookup_orderFields_map, if_pos h]

namespace DayEntry

/-- The counts stand in order, and are words. -/
structure Plain (e : DayEntry) : Prop where
  ordered : Ordered e.counts
  words : ∀ c ∈ e.counts, c.2 < Text.wordBound

/-- A day as it is written. -/
def fields (e : DayEntry) : List (String × Json) :=
  putField dateField (.str e.day.render) (e.counts.map fun c => (c.1, .nat c.2))

variable {e : DayEntry}

theorem read_fields (h : e.Plain) (room : Nat) :
    Reader.table Reader.value ((Dashboard.dayJson e).reread (room + 1)) = some e.fields := by
  apply Reader.table_reread
  · exact (h.ordered.map Json.nat).putField dateField _
  · intro f hf
    rcases mem_putField hf with rfl | hf
    · rfl
    · obtain ⟨c, hc, rfl⟩ := List.mem_map.mp hf
      exact Json.value?_reread (Json.plain_nat (h.words c hc) room)

theorem date_fields (e : DayEntry) : Activity.date e.fields = e.day.render := by
  rw [Activity.date, fields, lookup_putField]
  rfl

theorem count_fields (h : e.Plain) {name : String} (hn : name ≠ dateField) :
    Activity.count e.fields name = (e.counts.lookup name).getD 0 := by
  rw [Activity.count, fields, lookup_putField, if_neg hn, Assoc.lookup_map]
  cases hlookup : e.counts.lookup name with
  | none => rfl
  | some n =>
    have hword : n < Text.wordBound := h.words _ (Assoc.mem_of_lookup hlookup)
    rw [Option.map_some, Option.bind_some, Json.nat, Json.word?,
      if_pos ⟨Int.natCast_nonneg n, by omega⟩, Int.toNat_natCast]

end DayEntry

/-- What is read as a day tells the date of the entry, and its counts of the names. -/
structure DayEntry.ReadAs (e : DayEntry) (names : List String) (day : List (String × Json)) :
    Prop where
  date : Activity.date day = e.day.render
  count : ∀ name ∈ names, e.counts.lookup name = some (Activity.count day name)

theorem plain_dayEntry {buckets : List DayBucket}
    (h : ∀ b ∈ buckets, ∀ k ∈ b.sources, k.count < Text.wordBound) (names : List String) (day : Day) :
    (dayEntry buckets names day).Plain := by
  refine ⟨ordered_orderFields _, ?_⟩
  intro c hc
  obtain ⟨name, -, rfl⟩ := List.mem_map.mp (mem_of_mem_orderFields hc)
  dsimp only
  cases hfind : buckets.find? (·.day = day) with
  | none => exact (by decide : 0 < Text.wordBound)
  | some b => exact countOf_lt (h b (List.mem_of_find?_eq_some hfind)) name

theorem readAs_dayEntry {buckets : List DayBucket}
    (h : ∀ b ∈ buckets, ∀ k ∈ b.sources, k.count < Text.wordBound) (day : Day) :
    (dayEntry buckets (sourceNames buckets) day).ReadAs (sourceNames buckets)
      (dayEntry buckets (sourceNames buckets) day).fields := by
  refine ⟨DayEntry.date_fields _, fun name hname => ?_⟩
  have hne : name ≠ dateField := by
    rintro rfl
    exact dateField_not_mem_sourceNames buckets hname
  rw [DayEntry.count_fields (plain_dayEntry h _ day) hne, lookup_dayEntry buckets hname]
  rfl

/-! ## The whole of it -/

theorem readDays_reread {days : List DayEntry} (h : ∀ e ∈ days, e.Plain) (names : List String)
    (room : Nat) :
    Activity.readDays ((Json.obj [("data", .arr (days.map Dashboard.dayJson)),
      ("names", .texts names)]).reread (room + 3)) = some (days.map DayEntry.fields, names) := by
  have hdata := Reader.list_reread fun e he => DayEntry.read_fields (h e he) room
  have hnames := Reader.texts_reread names (room + 1)
  rw [Activity.readDays, record?_reread rfl, Option.bind_eq_bind, Option.bind_some,
    required_reread rfl, hdata]
  rw [required_reread rfl, hnames]
  rfl

theorem readTotal_reread {s : SizeStats} (h : s.count < Text.wordBound) (room : Nat) :
    Activity.readTotal ((Dashboard.totalJson s).reread (room + 1)) = some s.count := by
  rw [Activity.readTotal, Dashboard.totalJson, record?_reread rfl, Option.bind_eq_bind,
    Option.bind_some, required_reread rfl]
  exact Reader.word_reread h room

theorem read_dashboard {d : Dashboard} (hdays : ∀ e ∈ d.days, e.Plain)
    (htotal : d.total.count < Text.wordBound) (room : Nat) :
    Activity.read (d.toJson.reread (room + 4)) =
      some ⟨d.total.count, d.names, d.days.map DayEntry.fields⟩ := by
  have hrate := readDays_reread hdays d.names room
  have hcount := readTotal_reread htotal (room + 2)
  rw [Activity.read, Dashboard.toJson, record?_reread rfl, Option.bind_eq_bind, Option.bind_some,
    required_reread rfl, hrate]
  simp only [Option.bind_eq_bind, Option.bind_some]
  rw [required_reread rfl, hcount]
  rfl

/-- **The console reads what a dashboard tells**: the number of all files, the names of the sources, and
each day with its date and the count of every source. -/
theorem read_project {a : Aggregations} (h : a.Words) (today : Day) (room : Nat) :
    ∃ days, Activity.read ((Dashboard.project a today).toJson.reread (room + 4)) =
        some ⟨(Dashboard.project a today).total.count, (Dashboard.project a today).names, days⟩ ∧
      List.Forall₂ (fun (e : DayEntry) day => e.ReadAs (Dashboard.project a today).names day)
        (Dashboard.project a today).days days := by
  have hplain : ∀ e ∈ (Dashboard.project a today).days, e.Plain := by
    intro e he
    obtain ⟨day, -, rfl⟩ := List.mem_map.mp he
    exact plain_dayEntry h.days _ day
  refine ⟨_, read_dashboard hplain h.total room, ?_⟩
  rw [List.forall₂_map_right_iff, List.forall₂_same]
  intro e he
  obtain ⟨day, -, rfl⟩ := List.mem_map.mp he
  exact readAs_dayEntry h.days day

end DocSearch
