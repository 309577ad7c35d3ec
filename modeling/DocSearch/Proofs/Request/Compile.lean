import Mathlib
import DocSearch.Proofs.Request.Meaning
import DocSearch.Request.Compile
/-!
# What requests for queries mean

* `Query.Asks`: what a query asks of a document of some size, part by part. Blank parts ask for
  nothing.
* `holds_tagClauses`, `holds_sizeClauses`, …: what the clauses for each part mean.
* `holds_must`: what all clauses of a query mean together.
* **`page_matches_iff`**: the hits of a page are the documents that the query asks for and the mode
  shows. `fullDocument_matches_iff`: listings and pages of large files share them out.
* `aggregated_matches_iff`: trees and statistics are about the same documents.
-/

namespace DocSearch

variable {M : Matching} {d : Document} {n : JsonNumber}

/-- The document has a tag of that name. -/
def Document.Tagged (d : Document) (name : String) : Prop :=
  ∃ part ∈ d.parts "tags", part.field "tags.name" = some (.str name)

/-- A text matches a term: the text as it stands if the term is a pattern, by its words otherwise. -/
def Matching.Finds (M : Matching) (raw analyzed term : String) (d : Document) : Prop :=
  ('*' ∈ term.toList ∨ '?' ∈ term.toList) ∧ M.wildcard raw (Text.lower term) d ∨
    ('*' ∉ term.toList ∧ '?' ∉ term.toList) ∧ M.fullText analyzed term d

/-- The mode shows documents of that size. -/
def HighlightMode.Shows (mode : HighlightMode) (n : JsonNumber) : Prop :=
  match mode with
  | listing => ¬ JsonNumber.int 50000000 ≤ n
  | largeFile => JsonNumber.int 50000000 ≤ n
  | fullDocument => True

/-- A query asks for the document, which has that size. -/
structure Query.Asks (M : Matching) (q : Query) (d : Document) (n : JsonNumber) : Prop where
  processed : d.field "content.state" = some (.str "processed")
  name : ∀ s, q.name = some s → Text.trim s ≠ "" →
    M.Finds "meta.full_name" "meta.full_name.analyzed" (Text.trim s) d
  author : ∀ s, q.author = some s → Text.trim s ≠ "" →
    M.Finds "content.author" "content.author.analyzed" (Text.trim s) d
  /-- One of the sources, if any source is named. -/
  source : (∃ s ∈ q.source, Text.trim s ≠ "") → ∃ s ∈ q.source, Text.trim s ≠ "" ∧
    M.Finds "meta.source_id" "meta.source_id.analyzed" (Text.trim s) d
  atLeast : ∀ r k, q.size = some r → r.gte = some k → .int k ≤ n
  atMost : ∀ r k, q.size = some r → r.lte = some k → n ≤ .int k
  earliest : ∀ r s, q.updated = some r → r.gte = some s → Text.trim s ≠ "" →
    ∃ u, d.field "meta.updated_datetime" = some u ∧ M.notAfter (.str (Text.trim s)) u
  latest : ∀ r s, q.updated = some r → r.lte = some s → Text.trim s ≠ "" →
    ∃ u, d.field "meta.updated_datetime" = some u ∧ M.notAfter u (.str (Text.trim s))
  tags : ∀ s ∈ q.tags, Text.trim s ≠ "" → d.Tagged (Text.trim s)
  notTags : ∀ s ∈ q.notTags, Text.trim s ≠ "" → ¬ d.Tagged (Text.trim s)
  content : ∀ s, q.content = some s → Text.trim s ≠ "" →
    M.simpleQuery (Text.trim s) ["content.text", "content.author.analyzed",
      "meta.source_id.analyzed", "meta.full_name.analyzed"] d
  hidden : q.hiddenOnly = true → d.field "hidden" = some (.bool true)
  visible : q.visibleOnly = true → d.field "hidden" = some (.bool false)

/-! ## Parts that are not blank -/

theorem Text.nonBlank?_eq_some {s t : String} :
    Text.nonBlank? s = some t ↔ Text.trim s = t ∧ Text.trim s ≠ "" := by
  unfold Text.nonBlank?
  split_ifs with h
  · simp [h]
  · simp [h]

theorem mem_nonBlankItems {items : List String} {t : String} :
    t ∈ nonBlankItems items ↔ ∃ s ∈ items, Text.trim s = t ∧ Text.trim s ≠ "" := by
  simp only [nonBlankItems, List.mem_filterMap, Text.nonBlank?_eq_some]

theorem forall_nonBlankItems {items : List String} {P : String → Prop} :
    (∀ t ∈ nonBlankItems items, P t) ↔ ∀ s ∈ items, Text.trim s ≠ "" → P (Text.trim s) := by
  constructor
  · intro h s hs hb
    exact h _ (mem_nonBlankItems.mpr ⟨s, hs, rfl, hb⟩)
  · intro h t ht
    obtain ⟨s, hs, rfl, hb⟩ := mem_nonBlankItems.mp ht
    exact h s hs hb

theorem exists_nonBlankItems {items : List String} {P : String → Prop} :
    (∃ t ∈ nonBlankItems items, P t) ↔
      ∃ s ∈ items, Text.trim s ≠ "" ∧ P (Text.trim s) := by
  constructor
  · rintro ⟨t, ht, hp⟩
    obtain ⟨s, hs, rfl, hb⟩ := mem_nonBlankItems.mp ht
    exact ⟨s, hs, hb, hp⟩
  · rintro ⟨s, hs, hb, hp⟩
    exact ⟨_, mem_nonBlankItems.mpr ⟨s, hs, rfl, hb⟩, hp⟩

/-! ## The clauses for each part -/

theorem TextField.holds_clause {field : TextField} {term : String} :
    (field.clause term).Holds M d ↔ M.Finds field.raw field.analyzed term d := by
  have h : (term.toList.any fun c => c = '*' || c = '?') = true ↔
      '*' ∈ term.toList ∨ '?' ∈ term.toList := by
    simp only [List.any_eq_true, Bool.or_eq_true, decide_eq_true_eq]
    constructor
    · rintro ⟨c, hc, rfl | rfl⟩
      · exact .inl hc
      · exact .inr hc
    · rintro (hc | hc)
      · exact ⟨_, hc, .inl rfl⟩
      · exact ⟨_, hc, .inr rfl⟩
  unfold TextField.clause MatchStrategy.ofTerm Matching.Finds
  rw [← not_or]
  by_cases hp : '*' ∈ term.toList ∨ '?' ∈ term.toList
  · rw [if_pos (h.mpr hp)]
    simp [hp, MatchStrategy.clause, Clause.Holds]
  · rw [if_neg (mt h.mp hp)]
    simp [hp, MatchStrategy.clause, Clause.Holds]

theorem holds_tagClause {name : String} : (tagClause name).Holds M d ↔ d.Tagged name := by
  simp only [tagClause, Clause.Holds, Document.Tagged]

namespace Query

variable {q : Query}

theorem holds_clauseOf? {part : Option String} {clause : String → Clause} :
    (∀ c ∈ (clauseOf? part clause).toList, c.Holds M d) ↔
      ∀ s, part = some s → Text.trim s ≠ "" → (clause (Text.trim s)).Holds M d := by
  simp only [clauseOf?, Option.mem_toList, Option.map_eq_some_iff, Option.bind_eq_some_iff,
    Text.nonBlank?_eq_some]
  constructor
  · intro h s hs hb
    exact h _ ⟨_, ⟨s, hs, rfl, hb⟩, rfl⟩
  · rintro h c ⟨t, ⟨s, hs, rfl, hb⟩, rfl⟩
    exact h s hs hb

theorem holds_anyOf? {cs : List Clause} :
    (∀ c ∈ (anyOf? cs).toList, c.Holds M d) ↔ (cs ≠ [] → ∃ c ∈ cs, c.Holds M d) := by
  unfold anyOf?
  split_ifs with h
  · simp [List.isEmpty_iff.mp h]
  · simp only [Option.toList_some, List.forall_mem_singleton, Clause.holds_anyOf]
    exact ⟨fun hc _ => hc, fun hc => hc (mt List.isEmpty_iff.mpr h)⟩

theorem holds_sourceClauses :
    (∀ c ∈ (anyOf? ((nonBlankItems q.source).map TextField.source.clause)).toList, c.Holds M d) ↔
      ((∃ s ∈ q.source, Text.trim s ≠ "") →
        ∃ s ∈ q.source, Text.trim s ≠ "" ∧
          M.Finds "meta.source_id" "meta.source_id.analyzed" (Text.trim s) d) := by
  have hne : (nonBlankItems q.source).map TextField.source.clause ≠ [] ↔
      ∃ s ∈ q.source, Text.trim s ≠ "" := by
    rw [ne_eq, List.map_eq_nil_iff, List.eq_nil_iff_forall_not_mem]
    push Not
    simpa using @exists_nonBlankItems q.source fun _ => True
  have hex : (∃ c ∈ (nonBlankItems q.source).map TextField.source.clause, c.Holds M d) ↔
      ∃ s ∈ q.source, Text.trim s ≠ "" ∧
        M.Finds "meta.source_id" "meta.source_id.analyzed" (Text.trim s) d := by
    simp only [List.mem_map, exists_exists_and_eq_and, TextField.holds_clause]
    exact exists_nonBlankItems
  rw [holds_anyOf?, hne, hex]

theorem forall_bound {ρ α : Type} (part : Option ρ) (missing : ρ) (bound : ρ → Option α)
    (h : bound missing = none) {P : α → Prop} :
    (∀ k, bound (part.getD missing) = some k → P k) ↔
      ∀ r k, part = some r → bound r = some k → P k := by
  cases part with
  | none => simp [h]
  | some r =>
    constructor
    · rintro hk _ k ⟨⟩
      exact hk k
    · exact fun hk k => hk r k rfl

theorem holds_sizeClauses (hd : d.field "content.size" = some (.num n)) :
    (∀ c ∈ q.sizeClauses, c.Holds M d) ↔
      (∀ r k, q.size = some r → r.gte = some k → .int k ≤ n) ∧
        ∀ r k, q.size = some r → r.lte = some k → n ≤ .int k := by
  have hgte : ∀ k : Nat, (Clause.range "content.size" (.gte (.nat k))).Holds M d ↔ .int k ≤ n := by
    simp [Clause.Holds, hd, Matching.Within, Matching.Le, Json.nat]
  have hlte : ∀ k : Nat, (Clause.range "content.size" (.lte (.nat k))).Holds M d ↔ n ≤ .int k := by
    simp [Clause.Holds, hd, Matching.Within, Matching.Le, Json.nat]
  rw [← forall_bound q.size {} SizeRange.gte rfl, ← forall_bound q.size {} SizeRange.lte rfl]
  simp only [sizeClauses, List.forall_mem_append, Option.mem_toList, Option.map_eq_some_iff,
    forall_exists_index, and_imp, forall_apply_eq_imp_iff₂, hgte, hlte]

theorem holds_updatedClauses :
    (∀ c ∈ q.updatedClauses, c.Holds M d) ↔
      (∀ r s, q.updated = some r → r.gte = some s → Text.trim s ≠ "" →
        ∃ u, d.field "meta.updated_datetime" = some u ∧ M.notAfter (.str (Text.trim s)) u) ∧
      ∀ r s, q.updated = some r → r.lte = some s → Text.trim s ≠ "" →
        ∃ u, d.field "meta.updated_datetime" = some u ∧ M.notAfter u (.str (Text.trim s)) := by
  have hle : ∀ v s, M.Le v (.str s) ↔ M.notAfter v (.str s) := fun v s => by
    cases v <;> rfl
  rw [← forall_bound q.updated {} TimeRange.gte rfl, ← forall_bound q.updated {} TimeRange.lte rfl,
    updatedClauses, List.forall_mem_append, holds_clauseOf?, holds_clauseOf?]
  simp only [Clause.Holds, Matching.Within, hle]
  rfl

theorem holds_tagClauses :
    (∀ c ∈ q.tagClauses, c.Holds M d) ↔
      (∀ s ∈ q.tags, Text.trim s ≠ "" → d.Tagged (Text.trim s)) ∧
        ∀ s ∈ q.notTags, Text.trim s ≠ "" → ¬ d.Tagged (Text.trim s) := by
  rw [← forall_nonBlankItems, ← @forall_nonBlankItems q.notTags fun t => ¬ d.Tagged t]
  unfold tagClauses
  dsimp only
  split_ifs with h
  -- Without a tag on either side no clause is written.
  · rw [Bool.and_eq_true, List.isEmpty_iff, List.isEmpty_iff, List.map_eq_nil_iff,
      List.map_eq_nil_iff] at h
    simp [h.1, h.2]
  · rw [List.forall_mem_singleton, Clause.holds_bool rfl, List.forall_mem_map, List.forall_mem_map]
    simp only [holds_tagClause]

theorem holds_contentClauses :
    (∀ c ∈ (anyOf? q.contentClauses).toList, c.Holds M d) ↔
      ∀ s, q.content = some s → Text.trim s ≠ "" → M.simpleQuery (Text.trim s) contentFields d := by
  have h : ∀ s, (Clause.simpleQuery s contentFields).Holds M d ↔ M.simpleQuery s contentFields d :=
    fun s => by rw [Clause.Holds]
  have hc := @holds_clauseOf? M d q.content (Clause.simpleQuery · contentFields)
  simp only [h] at hc
  rw [← hc, holds_anyOf?, contentClauses]
  cases clauseOf? q.content (Clause.simpleQuery · contentFields) <;> simp

theorem holds_hiddenClauses :
    (∀ c ∈ q.hiddenClauses, c.Holds M d) ↔
      (q.hiddenOnly = true → d.field "hidden" = some (.bool true)) ∧
        (q.visibleOnly = true → d.field "hidden" = some (.bool false)) := by
  rw [hiddenClauses, List.forall_mem_append]
  split_ifs with hh hv hv <;> simp [hh, hv, Clause.Holds]

/-- **All clauses of a query**, within a scope and for a file. -/
theorem holds_must (hd : d.field "content.size" = some (.num n)) {scope : Option Clause}
    {file : Option String} :
    (∀ c ∈ q.must scope file, c.Holds M d) ↔
      (∀ s, file = some s → Text.trim s ≠ "" → d.field "file_id" = some (.str (Text.trim s))) ∧
        (∀ c ∈ scope.toList, c.Holds M d) ∧ q.Asks M d n := by
  simp only [must, List.forall_mem_append, holds_clauseOf?, holds_sourceClauses,
    holds_sizeClauses hd, holds_updatedClauses, holds_tagClauses, holds_contentClauses,
    holds_hiddenClauses, TextField.holds_clause, List.forall_mem_singleton, Clause.Holds]
  constructor
  · rintro ⟨⟨⟨⟨⟨⟨⟨⟨⟨⟨hf, hs⟩, hp⟩, hn⟩, ha⟩, hso⟩, hsi⟩, hu⟩, ht⟩, hc⟩, hh⟩
    exact ⟨hf, hs, hp, hn, ha, hso, hsi.1, hsi.2, hu.1, hu.2, ht.1, ht.2, hc, hh.1, hh.2⟩
  · rintro ⟨hf, hs, h⟩
    exact ⟨⟨⟨⟨⟨⟨⟨⟨⟨⟨hf, hs⟩, h.processed⟩, h.name⟩, h.author⟩, h.source⟩, h.atLeast, h.atMost⟩,
      h.earliest, h.latest⟩, h.tags, h.notTags⟩, h.content⟩, h.hidden, h.visible⟩

end Query

/-! ## Pages -/

theorem HighlightMode.holds_scope {mode : HighlightMode}
    (hd : d.field "content.size" = some (.num n)) :
    (∀ c ∈ mode.scope.toList, c.Holds M d) ↔ mode.Shows n := by
  have h := JsonNumber.le_total (.int 50000000) n
  cases mode with
  | listing =>
    simp only [scope, Shows, Option.toList_some, List.forall_mem_singleton, Clause.Holds, hd, Matching.Within,
      Matching.Le, Json.nat, Option.some.injEq, exists_eq_left', largeFileSize]
    exact ⟨And.right, fun hn => ⟨h.resolve_left hn, hn⟩⟩
  | largeFile =>
    simp [scope, Shows, Clause.Holds, hd, Matching.Within, Matching.Le, Json.nat, largeFileSize]
  | fullDocument => simp [scope, Shows]

theorem Query.matches_page_iff_must {q : Query} {offset size : Nat} {mode : HighlightMode} :
    (q.page offset size mode).Matches M d ↔ ∀ c ∈ q.must mode.scope none, c.Holds M d := by
  simp [page, paged, SearchRequest.Matches, Clause.holds_bool]

theorem Query.matches_page {q : Query} {offset size : Nat} {mode : HighlightMode}
    (hd : d.field "content.size" = some (.num n)) :
    (q.page offset size mode).Matches M d ↔
      (∀ c ∈ mode.scope.toList, c.Holds M d) ∧ q.Asks M d n := by
  rw [matches_page_iff_must, holds_must hd]
  simp

/-- **The hits of a page are what the query asks for and the mode shows.** -/
theorem Query.page_matches_iff (M : Matching) (q : Query) (offset size : Nat)
    (mode : HighlightMode) (hd : d.field "content.size" = some (.num n)) :
    (q.page offset size mode).Matches M d ↔ mode.Shows n ∧ q.Asks M d n := by
  rw [matches_page hd, HighlightMode.holds_scope hd]

/-- A file of ten bytes with one tag. -/
def taggedFile : Document :=
  .mk (fun f => if f = "content.state" then some (.str "processed")
    else if f = "content.size" then some (.nat 10) else none)
    fun _ => [.mk (fun _ => some (.str "tax")) fun _ => []]

/-- Nothing but the fields tells documents apart. -/
def plainMatching : Matching := ⟨fun _ _ _ => True, fun _ _ _ => True, fun _ _ _ => True, Eq⟩

/-- The file is on the page of small files with its tag and without another one. -/
theorem Query.page_matches_taggedFile :
    taggedFile.field "content.size" = some (.num (.int 10)) ∧
      (({ tags := [" tax "], notTags := ["old", " "] } : Query).page 0 10 .listing).Matches
        plainMatching taggedFile := by
  have hd : taggedFile.field "content.size" = some (.num (.int 10)) := rfl
  have htax : Text.trim " tax " = "tax" := by decide
  have hold : Text.trim "old" = "old" := by decide
  have hblank : Text.trim " " = "" := by decide
  refine ⟨hd, (Query.page_matches_iff plainMatching _ 0 10 .listing hd).mpr ⟨?_, ?_⟩⟩
  · exact mt JsonNumber.int_le_int.mp (by omega)
  · constructor <;> simp [taggedFile, Document.Tagged, Document.field, Document.parts, htax, hold,
      hblank]

/-- **Listings and pages of large files** share no document and leave none out. -/
theorem Query.fullDocument_matches_iff (M : Matching) (q : Query) (offset size : Nat)
    (hd : d.field "content.size" = some (.num n)) :
    (q.page offset size .fullDocument).Matches M d ↔
      Xor ((q.page offset size .listing).Matches M d)
        ((q.page offset size .largeFile).Matches M d) := by
  rw [matches_page hd, matches_page hd, matches_page hd, HighlightMode.holds_scope hd,
    HighlightMode.holds_scope hd, HighlightMode.holds_scope hd]
  by_cases h : JsonNumber.int 50000000 ≤ n <;>
    simp [HighlightMode.Shows, Xor, h]

/-- **Trees and statistics are about all documents that the query asks for**, of any size. -/
theorem Query.aggregated_matches_iff {q : Query} {aggregations : Json}
    (hd : d.field "content.size" = some (.num n)) :
    (q.aggregated aggregations).Matches M d ↔ q.Asks M d n := by
  have hm : (q.aggregated aggregations).Matches M d ↔ ∀ c ∈ q.must none none, c.Holds M d := by
    simp [aggregated, SearchRequest.Matches, Clause.holds_bool]
  rw [hm, holds_must hd]
  simp

end DocSearch
