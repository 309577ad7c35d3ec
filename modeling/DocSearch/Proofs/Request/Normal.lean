import Mathlib
import DocSearch.Proofs.Request.Compile
import DocSearch.Proofs.Text.Blank
/-!
# Queries in normal form

A part of a query that is blank asks for what an absent part asks for, and blanks at the ends of a part
do not count.

* `Text.IsTidy`, `Query.IsNormal`: texts without blanks at their ends, and queries of such texts in
  which nothing is written that asks for nothing.
* `Query.normal`: the normal form of a query; `isNormal_normal`, `normal_eq_self_iff`: it is normal, and
  only normal queries are left alone.
* `must_normal`, `highlight_normal`: both halves of a request see the normal form alone.
* **`requests_of_normal`**: every request for a query is that for its normal form.
-/

namespace DocSearch

/-! ## Tidy texts -/

/-- The text is not blank and has no blank at either end. -/
def Text.IsTidy (s : String) : Prop := Text.trim s = s ∧ s ≠ ""

theorem Text.trim_trim (s : String) : trim (trim s) = trim s := by
  rw [trim, trim, String.toList_ofList, trimChars_trimChars]

theorem Text.nonBlank?_eq_self_iff {s : String} : nonBlank? s = some s ↔ IsTidy s := by
  rw [nonBlank?_eq_some, IsTidy]
  exact and_congr_right fun h => by rw [h]

theorem Text.isTidy_of_nonBlank? {s t : String} (h : nonBlank? s = some t) : IsTidy t := by
  obtain ⟨rfl, hne⟩ := nonBlank?_eq_some.mp h
  exact ⟨trim_trim s, hne⟩

section Parts

variable {part : Option String} {items : List String}

theorem bind_nonBlank?_eq_self_iff :
    part.bind Text.nonBlank? = part ↔ ∀ s ∈ part, Text.IsTidy s := by
  cases part with
  | none => simp
  | some s => simp [Text.nonBlank?_eq_self_iff]

theorem isTidy_of_mem_bind : ∀ s ∈ part.bind Text.nonBlank?, Text.IsTidy s := by
  intro t ht
  obtain ⟨s, -, hs⟩ := Option.bind_eq_some_iff.mp ht
  exact Text.isTidy_of_nonBlank? hs

theorem bind_bind_nonBlank? (part : Option String) :
    (part.bind Text.nonBlank?).bind Text.nonBlank? = part.bind Text.nonBlank? :=
  bind_nonBlank?_eq_self_iff.mpr isTidy_of_mem_bind

theorem isTidy_of_mem_nonBlankItems : ∀ s ∈ nonBlankItems items, Text.IsTidy s := by
  intro t ht
  obtain ⟨s, -, hs⟩ := List.mem_filterMap.mp ht
  exact Text.isTidy_of_nonBlank? hs

theorem nonBlankItems_eq_self_iff : nonBlankItems items = items ↔ ∀ s ∈ items, Text.IsTidy s := by
  constructor
  · intro h
    rw [← h]
    exact isTidy_of_mem_nonBlankItems
  · intro h
    have hsome : ∀ s ∈ items, Text.nonBlank? s = some s := fun s hs =>
      Text.nonBlank?_eq_self_iff.mpr (h s hs)
    rw [nonBlankItems, List.filterMap_congr hsome, List.filterMap_some]

theorem nonBlankItems_nonBlankItems (items : List String) :
    nonBlankItems (nonBlankItems items) = nonBlankItems items :=
  nonBlankItems_eq_self_iff.mpr isTidy_of_mem_nonBlankItems

end Parts

/-! ## The normal form -/

/-- The bounds trimmed, blank ones absent. -/
def TimeRange.trimmed (r : TimeRange) : TimeRange :=
  ⟨r.gte.bind Text.nonBlank?, r.lte.bind Text.nonBlank?⟩

namespace Query

/-- The query with all texts trimmed, less what asks for nothing: blank texts, and ranges without a
bound. -/
def normal (q : Query) : Query where
  content := q.content.bind Text.nonBlank?
  name := q.name.bind Text.nonBlank?
  author := q.author.bind Text.nonBlank?
  source := nonBlankItems q.source
  size := q.size.filter (· ≠ {})
  updated := (q.updated.map TimeRange.trimmed).filter (· ≠ {})
  tags := nonBlankItems q.tags
  notTags := nonBlankItems q.notTags
  hiddenOnly := q.hiddenOnly
  visibleOnly := q.visibleOnly

/-- All texts are tidy, and every range has a bound. -/
structure IsNormal (q : Query) : Prop where
  content : ∀ s ∈ q.content, Text.IsTidy s
  name : ∀ s ∈ q.name, Text.IsTidy s
  author : ∀ s ∈ q.author, Text.IsTidy s
  source : ∀ s ∈ q.source, Text.IsTidy s
  size : q.size ≠ some {}
  updated : q.updated ≠ some {}
  earliest : ∀ r ∈ q.updated, ∀ s ∈ r.gte, Text.IsTidy s
  latest : ∀ r ∈ q.updated, ∀ s ∈ r.lte, Text.IsTidy s
  tags : ∀ s ∈ q.tags, Text.IsTidy s
  notTags : ∀ s ∈ q.notTags, Text.IsTidy s

theorem isNormal_normal (q : Query) : q.normal.IsNormal := by
  have hupdated : ∀ r ∈ q.normal.updated, ∃ r₀ : TimeRange, r₀.trimmed = r := by
    intro r hr
    obtain ⟨r₀, -, h⟩ := Option.map_eq_some_iff.mp (Option.eq_some_of_filter_eq_some hr)
    exact ⟨r₀, h⟩
  constructor
  case content | name | author => exact isTidy_of_mem_bind
  case source | tags | notTags => exact isTidy_of_mem_nonBlankItems
  case size | updated => simp [normal, Option.filter_eq_some_iff]
  case earliest | latest =>
    intro r hr
    obtain ⟨r₀, rfl⟩ := hupdated r hr
    exact isTidy_of_mem_bind

/-- **Only normal queries are left alone.** -/
theorem normal_eq_self_iff {q : Query} : q.normal = q ↔ q.IsNormal := by
  constructor
  · intro h
    rw [← h]
    exact q.isNormal_normal
  · intro h
    have hsize : q.size.filter (· ≠ {}) = q.size := by
      cases hs : q.size with
      | none => rfl
      | some r => exact Option.filter_some_pos (by simpa [hs] using h.size)
    have hupdated : (q.updated.map TimeRange.trimmed).filter (· ≠ {}) = q.updated := by
      cases hu : q.updated with
      | none => rfl
      | some r =>
        have hr : r.trimmed = r := by
          rw [TimeRange.trimmed, bind_nonBlank?_eq_self_iff.mpr (h.earliest r hu),
            bind_nonBlank?_eq_self_iff.mpr (h.latest r hu)]
        rw [Option.map_some, hr]
        exact Option.filter_some_pos (by simpa [hu] using h.updated)
    simp only [normal, bind_nonBlank?_eq_self_iff.mpr h.content,
      bind_nonBlank?_eq_self_iff.mpr h.name, bind_nonBlank?_eq_self_iff.mpr h.author,
      nonBlankItems_eq_self_iff.mpr h.source, nonBlankItems_eq_self_iff.mpr h.tags,
      nonBlankItems_eq_self_iff.mpr h.notTags, hsize, hupdated]

/-! ## Requests -/

theorem clauseOf?_bind (part : Option String) (clause : String → Clause) :
    clauseOf? (part.bind Text.nonBlank?) clause = clauseOf? part clause := by
  rw [clauseOf?, bind_bind_nonBlank?, clauseOf?]

theorem contentClauses_normal (q : Query) : q.normal.contentClauses = q.contentClauses := by
  rw [contentClauses, contentClauses, normal, clauseOf?_bind]

/-- A record that says nothing more than a missing one may be missing. -/
theorem getD_filter_ne {ρ : Type} [DecidableEq ρ] (missing : ρ) (part : Option ρ) :
    (part.filter (· ≠ missing)).getD missing = part.getD missing := by
  cases part with
  | none => rfl
  | some r =>
    by_cases h : r = missing
    · rw [h, Option.filter_some_neg (by simp)]
      rfl
    · rw [Option.filter_some_pos (by simpa using h)]

theorem sizeClauses_normal (q : Query) : q.normal.sizeClauses = q.sizeClauses := by
  rw [sizeClauses, sizeClauses, normal, getD_filter_ne]

theorem updatedClauses_normal (q : Query) : q.normal.updatedClauses = q.updatedClauses := by
  have hmap : (q.updated.map TimeRange.trimmed).getD {} = (q.updated.getD {}).trimmed := by
    cases q.updated <;> rfl
  rw [updatedClauses, updatedClauses, normal, getD_filter_ne, hmap, TimeRange.trimmed,
    clauseOf?_bind, clauseOf?_bind]

theorem tagClauses_normal (q : Query) : q.normal.tagClauses = q.tagClauses := by
  simp only [tagClauses, normal, nonBlankItems_nonBlankItems]

/-- **The clauses of a query are those of its normal form.** -/
theorem must_normal (q : Query) (scope : Option Clause) (file : Option String) :
    q.normal.must scope file = q.must scope file := by
  have hsource : nonBlankItems q.normal.source = nonBlankItems q.source :=
    nonBlankItems_nonBlankItems q.source
  have hname : ∀ clause, clauseOf? q.normal.name clause = clauseOf? q.name clause :=
    clauseOf?_bind q.name
  have hauthor : ∀ clause, clauseOf? q.normal.author clause = clauseOf? q.author clause :=
    clauseOf?_bind q.author
  have hhidden : q.normal.hiddenClauses = q.hiddenClauses := rfl
  rw [must, must, hname, hauthor, hsource, sizeClauses_normal, updatedClauses_normal,
    tagClauses_normal, contentClauses_normal, hhidden]

theorem highlight_normal (q : Query) (mode : HighlightMode) :
    q.normal.highlight mode = q.highlight mode := by
  rw [highlight, highlight, contentClauses_normal]

/-- **Every request for a query is the one for its normal form**: for a page of hits, for one file, for
the folders and for statistics, with its clauses and its highlight. The normal form is tidy, and its own
normal form. -/
theorem requests_of_normal (q : Query) :
    (∀ offset size mode, q.normal.page offset size mode = q.page offset size mode) ∧
    (∀ id mode, q.normal.file id mode = q.file id mode) ∧
    q.normal.tree = q.tree ∧
    (∀ tagLimit, q.normal.statistics tagLimit = q.statistics tagLimit) ∧
    q.normal.IsNormal ∧ q.normal.normal = q.normal := by
  have hpaged : ∀ must offset size mode,
      q.normal.paged must offset size mode = q.paged must offset size mode := by
    intro must offset size mode
    rw [paged, paged, highlight_normal]
  have haggregated : ∀ aggregations,
      q.normal.aggregated aggregations = q.aggregated aggregations := by
    intro aggregations
    rw [aggregated, aggregated, must_normal]
  refine ⟨fun offset size mode => ?_, fun id mode => ?_, ?_, fun tagLimit => ?_,
    q.isNormal_normal, normal_eq_self_iff.mpr q.isNormal_normal⟩
  · rw [page, page, must_normal, hpaged]
  · rw [file, file, must_normal, hpaged]
  · exact haggregated _
  · exact haggregated _

end Query

end DocSearch
