import Mathlib
import DocSearch.Proofs.Calendar.Date
import DocSearch.Proofs.Stats.Dashboard
/-!
# The days of a dashboard

* `nodup_firstSeen`, `pairwise_sourceNames`: names stand once, in the order in which they are first
  seen.
* `mem_daysUpTo`, `isChain_daysUpTo`: the days shown are the last thirty, one after the other.
* `sum_find?`: where keys stand once, what is found under some keys is what there is under them.
* `Dashboard.IsDense`, `Dashboard.Conserves`, **`Dashboard.project_window`**: each of thirty days has a
  count for every source, and no count of these days is lost.
-/

namespace DocSearch

/-! ## Names in the order in which they are first seen -/

theorem nodup_firstSeen (names : List String) : (firstSeen names).Nodup := by
  induction names using List.reverseRecOn with
  | nil => exact List.nodup_nil
  | append_singleton names n ih =>
    rw [firstSeen_concat]
    split_ifs with hn
    · exact ih
    · exact List.concat_eq_append ▸ ih.concat hn

theorem pairwise_firstSeen (names : List String) :
    (firstSeen names).Pairwise fun m n => names.idxOf m < names.idxOf n := by
  induction names using List.reverseRecOn with
  | nil => exact .nil
  | append_singleton names n ih =>
    have hold : ∀ m ∈ firstSeen names, (names ++ [n]).idxOf m = names.idxOf m := fun m hm =>
      List.idxOf_append_of_mem (mem_firstSeen.mp hm)
    have hpairs : (firstSeen names).Pairwise fun m m' =>
        (names ++ [n]).idxOf m < (names ++ [n]).idxOf m' := by
      refine ih.imp_of_mem fun hm hm' hlt => ?_
      rwa [hold _ hm, hold _ hm']
    rw [firstSeen_concat]
    split_ifs with hn
    · exact hpairs
    · refine List.pairwise_append.mpr ⟨hpairs, List.pairwise_singleton _ _, fun m hm m' hm' => ?_⟩
      rw [mem_firstSeen] at hn
      rw [List.mem_singleton.mp hm', hold m hm, List.idxOf_append_of_notMem hn]
      exact Nat.lt_add_right _ (List.idxOf_lt_length_iff.mpr (mem_firstSeen.mp hm))

/-- Dropping other items keeps the order of two. -/
theorem idxOf_lt_of_filter {α : Type} [DecidableEq α] {p : α → Bool} {x y : α} (hx : p x = true)
    (hy : p y = true) {l : List α} (h : (l.filter p).idxOf x < (l.filter p).idxOf y) :
    l.idxOf x < l.idxOf y := by
  induction l with
  | nil => exact h
  | cons a l ih =>
    by_cases ha : p a = true
    · rw [List.filter_cons_of_pos ha] at h
      by_cases hax : a = x
      · have hay : a ≠ y := by
          rintro rfl
          exact lt_irrefl _ (hax ▸ h)
        rw [hax, List.idxOf_cons_self, ← hax, List.idxOf_cons_ne _ hay]
        exact Nat.succ_pos _
      · have hay : a ≠ y := by
          rintro rfl
          rw [List.idxOf_cons_self] at h
          exact Nat.not_lt_zero _ h
        rw [List.idxOf_cons_ne _ hax, List.idxOf_cons_ne _ hay] at h ⊢
        exact Nat.succ_lt_succ (ih (Nat.lt_of_succ_lt_succ h))
    · have hax : a ≠ x := fun e => ha (e ▸ hx)
      have hay : a ≠ y := fun e => ha (e ▸ hy)
      rw [List.filter_cons_of_neg ha] at h
      rw [List.idxOf_cons_ne _ hax, List.idxOf_cons_ne _ hay]
      exact Nat.succ_lt_succ (ih h)

theorem pairwise_sourceNames (buckets : List DayBucket) :
    (sourceNames buckets).Pairwise fun m n =>
      (sourceKeys buckets).idxOf m < (sourceKeys buckets).idxOf n := by
  refine (pairwise_firstSeen _).imp_of_mem fun hm hn hlt => ?_
  have hm' := (mem_sourceNames.mp hm).2
  have hn' := (mem_sourceNames.mp hn).2
  exact idxOf_lt_of_filter (p := (· ≠ dateField)) (decide_eq_true hm') (decide_eq_true hn') hlt

/-! ## The last thirty days -/

variable {today d : Day}

theorem mem_daysUpTo : d ∈ daysUpTo today ↔ today.number - 29 ≤ d.number ∧ d.number ≤ today.number := by
  simp only [daysUpTo, daySpan, List.mem_map, List.mem_range]
  constructor
  · rintro ⟨n, hn, rfl⟩
    simp only [Day.plus]
    omega
  · intro h
    refine ⟨(d.number - today.number + 29).toNat, by omega, congrArg Day.mk ?_⟩
    omega

theorem isChain_daysUpTo (today : Day) : (daysUpTo today).IsChain fun d d' => d' = d.plus 1 := by
  rw [daysUpTo, List.isChain_map, List.isChain_range]
  intro n _
  apply congrArg Day.mk
  simp only [Day.plus]
  omega

theorem pairwise_daysUpTo (today : Day) :
    (daysUpTo today).Pairwise fun d d' => d.number < d'.number := by
  rw [daysUpTo, List.pairwise_map]
  refine List.pairwise_lt_range.imp fun h => ?_
  simp only [Day.plus]
  omega

theorem nodup_daysUpTo (today : Day) : (daysUpTo today).Nodup :=
  (pairwise_daysUpTo today).imp fun h e => by
    rw [e] at h
    exact lt_irrefl _ h

theorem getLast?_daysUpTo (today : Day) : (daysUpTo today).getLast? = some today := by
  rw [daysUpTo, List.getLast?_map, List.getLast?_range]
  simp [daySpan, Day.plus]

/-! ## Keys that stand once -/

section Keys

variable {α κ : Type} [DecidableEq κ] {key : α → κ} {l : List α}

theorem find?_of_nodup (h : (l.map key).Nodup) {a : α} (ha : a ∈ l) :
    l.find? (key · = key a) = some a := by
  induction l with
  | nil => cases ha
  | cons b l ih =>
    obtain ⟨hb, hl⟩ := List.nodup_cons.mp h
    rcases List.mem_cons.mp ha with rfl | ha
    · exact List.find?_cons_of_pos (decide_eq_true rfl)
    · have hne : key b ≠ key a := fun e => hb (e ▸ List.mem_map_of_mem ha)
      rw [List.find?_cons_of_neg (by simpa using hne), ih hl ha]

theorem find?_eq_sum (h : (l.map key).Nodup) (k : κ) (g : α → Nat) :
    ((l.find? (key · = k)).map g).getD 0 = ((l.filter (key · = k)).map g).sum := by
  induction l with
  | nil => rfl
  | cons a l ih =>
    obtain ⟨ha, hl⟩ := List.nodup_cons.mp h
    by_cases hk : key a = k
    · have hnone : l.filter (key · = k) = [] := by
        apply List.filter_eq_nil_iff.mpr
        intro b hb hbk
        exact ha (List.mem_map.mpr ⟨b, hb, (of_decide_eq_true hbk).trans hk.symm⟩)
      rw [List.find?_cons_of_pos (by simpa using hk), List.filter_cons_of_pos (by simpa using hk), hnone]
      rfl
    · rw [List.find?_cons_of_neg (by simpa using hk), List.filter_cons_of_neg (by simpa using hk), ih hl]

theorem sum_filter_mem_cons {k : κ} {ks : List κ} (hk : k ∉ ks) (g : α → Nat) :
    ((l.filter (key · ∈ k :: ks)).map g).sum =
      ((l.filter (key · = k)).map g).sum + ((l.filter (key · ∈ ks)).map g).sum := by
  have hfirst : (l.filter (key · ∈ k :: ks)).filter (key · = k) = l.filter (key · = k) := by
    rw [List.filter_filter]
    refine List.filter_congr fun a _ => ?_
    by_cases ha : key a = k <;> simp [ha]
  have hrest : (l.filter (key · ∈ k :: ks)).filter (fun a => !decide (key a = k)) =
      l.filter (key · ∈ ks) := by
    rw [List.filter_filter]
    refine List.filter_congr fun a _ => ?_
    by_cases ha : key a = k <;> simp [ha, hk]
  have hsplit := ((List.filter_append_perm (key · = k) (l.filter (key · ∈ k :: ks))).map g).sum_eq
  rw [List.map_append, List.sum_append, hfirst, hrest] at hsplit
  exact hsplit.symm

/-- **What is found under some keys is what there is under them.** -/
theorem sum_find? (h : (l.map key).Nodup) {ks : List κ} (hks : ks.Nodup) (g : α → Nat) :
    (ks.map fun k => ((l.find? (key · = k)).map g).getD 0).sum =
      ((l.filter (key · ∈ ks)).map g).sum := by
  induction ks with
  | nil => simp
  | cons k ks ih =>
    obtain ⟨hk, hks⟩ := List.nodup_cons.mp hks
    rw [List.map_cons, List.sum_cons, ih hks, find?_eq_sum h, sum_filter_mem_cons hk]

end Keys

/-! ## Counts -/

variable {b : DayBucket} {buckets : List DayBucket} {name : String}

theorem countOf_of_mem (h : (b.sources.map (·.key)).Nodup) {s : KeyCount} (hs : s ∈ b.sources) :
    b.countOf s.key = s.count := by
  rw [DayBucket.countOf, find?_of_nodup h hs]
  rfl

theorem countOf_of_absent (h : ∀ s ∈ b.sources, s.key ≠ name) : b.countOf name = 0 := by
  rw [DayBucket.countOf, List.find?_eq_none.mpr (by simpa using h)]
  rfl

theorem sum_countOf (h : ∀ b ∈ buckets, (b.sources.map (·.key)).Nodup) (name : String) :
    (buckets.map (·.countOf name)).sum =
      (((buckets.flatMap (·.sources)).filter (·.key = name)).map (·.count)).sum := by
  induction buckets with
  | nil => rfl
  | cons b buckets ih =>
    obtain ⟨hb, hbuckets⟩ := List.forall_mem_cons.mp h
    rw [List.map_cons, List.sum_cons, ih hbuckets, List.flatMap_cons, List.filter_append, List.map_append,
      List.sum_append, DayBucket.countOf, find?_eq_sum hb]

theorem keys_dayEntry (buckets : List DayBucket) {names : List String} (h : names.Nodup) (day : Day) :
    ((dayEntry buckets names day).counts.map Prod.fst).Perm names := by
  have hordered : Ordered (dayEntry buckets names day).counts := ordered_orderFields _
  refine (List.perm_ext_iff_of_nodup hordered.nodup_keys h).mpr fun n => ⟨fun hn => ?_, fun hn => ?_⟩
  · obtain ⟨c, hc, rfl⟩ := List.mem_map.mp hn
    obtain ⟨m, hm, rfl⟩ := List.mem_map.mp (mem_of_mem_orderFields hc)
    exact hm
  · exact List.mem_map_of_mem (f := Prod.fst) (Assoc.mem_of_lookup (lookup_dayEntry buckets hn day))

namespace Dashboard

/-- Thirty days follow one another in the calendar up to one day, and each has one count for every
source that the buckets know, but for one that would be shown in the place of the date. -/
structure IsDense (d : Dashboard) (buckets : List DayBucket) (today : Day) : Prop where
  length : d.days.length = 30
  valid : ∀ e ∈ d.days, e.day.date.isValid = true
  next : (d.days.map (·.day.date)).IsChain fun v w => w = v.next
  ascending : (d.days.map (·.day.date)).Pairwise Date.Before
  last : (d.days.map (·.day)).getLast? = some today
  nodup : d.names.Nodup
  names : ∀ n, n ∈ d.names ↔ (∃ b ∈ buckets, ∃ s ∈ b.sources, s.key = n) ∧ n ≠ "date"
  firstSeen : d.names.Pairwise fun m n =>
    (buckets.flatMap fun b => b.sources.map (·.key)).idxOf m <
      (buckets.flatMap fun b => b.sources.map (·.key)).idxOf n
  counts : ∀ e ∈ d.days, (e.counts.map Prod.fst).Perm d.names
  written : ∀ e ∈ d.days, ∀ n, (dayJson e).field? n =
    if n = "date" then some (.str e.day.date.render) else (e.counts.lookup n).map Json.nat

/-- A bucket is of one of the thirty days up to a day. -/
def InWindow (today : Day) (b : DayBucket) : Prop :=
  today.number - 29 ≤ b.key.fdiv 86400000 ∧ b.key.fdiv 86400000 ≤ today.number

instance (today : Day) : DecidablePred (InWindow today) := fun _ => inferInstanceAs (Decidable (_ ∧ _))

/-- Each count is the one of the bucket of its day, so none of these days is lost. -/
structure Conserves (d : Dashboard) (buckets : List DayBucket) (today : Day) : Prop where
  counted : ∀ e ∈ d.days, ∀ b ∈ buckets, b.key.fdiv 86400000 = e.day.number →
    ∀ s ∈ b.sources, s.key ∈ d.names → e.counts.lookup s.key = some s.count
  zero : ∀ e ∈ d.days, ∀ n ∈ d.names,
    (∀ b ∈ buckets, b.key.fdiv 86400000 = e.day.number → ∀ s ∈ b.sources, s.key ≠ n) →
      e.counts.lookup n = some 0
  sum : ∀ n ∈ d.names, (d.days.map fun e => (e.counts.lookup n).getD 0).sum =
    ((((buckets.filter (InWindow today)).flatMap (·.sources)).filter (·.key = n)).map (·.count)).sum

theorem isDense_project (a : Aggregations) (today : Day) : (project a today).IsDense a.days today := by
  have hdays : (project a today).days.map (·.day) = daysUpTo today := by
    simp [project, dayEntry, Function.comp_def]
  have hdates : (project a today).days.map (·.day.date) = (daysUpTo today).map Day.date := by
    rw [← hdays, List.map_map]
    rfl
  have hnames : ∀ n, n ∈ (project a today).names ↔
      (∃ b ∈ a.days, ∃ s ∈ b.sources, s.key = n) ∧ n ≠ "date" := by
    intro n
    rw [project, mem_sourceNames]
    simp [sourceKeys, dateField]
  constructor
  case length => simp [project, daysUpTo, daySpan]
  case valid => exact fun e _ => e.day.isValid_date
  case next =>
    rw [hdates, List.isChain_map]
    refine (isChain_daysUpTo today).imp fun d d' h => ?_
    rw [h, Day.date_succ]
  case ascending =>
    rw [hdates, List.pairwise_map]
    exact (pairwise_daysUpTo today).imp fun h => (Day.number_lt_iff _ _).mp h
  case last => rw [hdays, getLast?_daysUpTo]
  case nodup => exact nodup_firstSeen _
  case names => exact hnames
  case firstSeen => exact pairwise_sourceNames a.days
  case counts =>
    intro e he
    obtain ⟨day, -, rfl⟩ := List.mem_map.mp he
    exact keys_dayEntry a.days (nodup_firstSeen _) day
  case written =>
    intro e _ n
    rw [dayJson, Json.field?, lookup_putField, Assoc.lookup_map]
    rfl

theorem conserves_project {a : Aggregations} (hdays : (a.days.map DayBucket.day).Nodup)
    (hkeys : ∀ b ∈ a.days, (b.sources.map (·.key)).Nodup) (today : Day) :
    (project a today).Conserves a.days today := by
  have hnumber : ∀ (b : DayBucket) (day : Day), b.key.fdiv 86400000 = day.number → b.day = day :=
    fun b day h => congrArg Day.mk h
  have hlookup : ∀ {n : String}, n ∈ (project a today).names → ∀ day,
      (dayEntry a.days (sourceNames a.days) day).counts.lookup n =
        some (((a.days.find? (·.day = day)).map (·.countOf n)).getD 0) :=
    fun hn => lookup_dayEntry a.days hn
  constructor
  case counted =>
    intro e he b hb hday s hs hn
    obtain ⟨day, -, rfl⟩ := List.mem_map.mp he
    obtain rfl : b.day = day := hnumber b day hday
    rw [hlookup hn, find?_of_nodup hdays hb, Option.map_some, Option.getD_some,
      countOf_of_mem (hkeys b hb) hs]
  case zero =>
    intro e he n hn habsent
    obtain ⟨day, -, rfl⟩ := List.mem_map.mp he
    rw [hlookup hn]
    cases hfind : a.days.find? (·.day = day) with
    | none => rfl
    | some b =>
      have hday := List.find?_some hfind
      obtain rfl : b.day = day := by simpa using hday
      rw [Option.map_some, Option.getD_some,
        countOf_of_absent (habsent b (List.mem_of_find?_eq_some hfind) rfl)]
  case sum =>
    intro n hn
    have hcounts : (project a today).days.map (fun e => (e.counts.lookup n).getD 0) =
        (daysUpTo today).map fun day => ((a.days.find? (·.day = day)).map (·.countOf n)).getD 0 := by
      rw [project, List.map_map]
      refine List.map_congr_left fun day _ => ?_
      rw [Function.comp_apply, hlookup hn, Option.getD_some]
    have hwindow : a.days.filter (·.day ∈ daysUpTo today) = a.days.filter (InWindow today) := by
      refine List.filter_congr fun b _ => ?_
      rw [decide_eq_decide, mem_daysUpTo]
      rfl
    rw [hcounts, sum_find? hdays (nodup_daysUpTo today), hwindow, sum_countOf]
    exact fun b hb => hkeys b (List.mem_of_mem_filter hb)

/-- **Each of the last thirty days has a count for every source, and no count of these days is lost.**
The days follow one another in the calendar and the names stand in the order in which they are first
seen. Where no two buckets fall on one day and no bucket tells a source twice, each count is the one of
the bucket of its day. -/
theorem project_window (a : Aggregations) (today : Day) :
    (project a today).IsDense a.days today ∧
      ((a.days.map DayBucket.day).Nodup → (∀ b ∈ a.days, (b.sources.map (·.key)).Nodup) →
        (project a today).Conserves a.days today) :=
  ⟨isDense_project a today, fun hdays hkeys => conserves_project hdays hkeys today⟩

/-- Three buckets seen from the fourteenth of March 2024: one ends the leap day, one starts the first day
of the window, and one ends the day before that. -/
theorem project_window_leap_day :
    let a : Aggregations := { days := [⟨1709251199999, [⟨"mail", 2⟩, ⟨"share", 1⟩]⟩,
      ⟨1707868800000, [⟨"mail", 5⟩]⟩, ⟨1707868799999, [⟨"archive", 7⟩]⟩] }
    (a.days.map DayBucket.day).Nodup ∧ (∀ b ∈ a.days, (b.sources.map (·.key)).Nodup) ∧
      ((project a ⟨19796⟩).days.map fun e => (e.counts.lookup "mail").getD 0).sum = 7 ∧
      ((project a ⟨19796⟩).days.map fun e => (e.counts.lookup "archive").getD 0).sum = 0 := by
  intro a
  have hdays : (a.days.map DayBucket.day).Nodup := by decide
  have hkeys : ∀ b ∈ a.days, (b.sources.map (·.key)).Nodup := by decide
  have h := (project_window a ⟨19796⟩).2 hdays hkeys
  exact ⟨hdays, hkeys, (h.sum "mail" (by decide)).trans (by decide),
    (h.sum "archive" (by decide)).trans (by decide)⟩

end Dashboard

end DocSearch
