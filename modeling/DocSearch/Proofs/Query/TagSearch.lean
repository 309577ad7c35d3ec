import Mathlib
import DocSearch.Proofs.Query.Key
import DocSearch.Proofs.Query.Parser
import DocSearch.Proofs.Tag
import DocSearch.Request.Compile
/-!
# Searching for a tag by its name

* `Tag.IsOneItem`: a name that stays in one piece in the text of a query.
* `Query.mem_listed`: every name that a query lists is such a one.
* **`Tag.search_by_name`**: the search for a tag by its name asks for that tag exactly when the name is
  one item.
-/

namespace DocSearch

namespace Key

variable {k : Key}

theorem saidBy?_eq_some_iff {token v : String} : k.saidBy? token = some v ↔ k.Says token v := by
  rw [← ofToken?_eq_some_iff, saidBy?]
  rcases ofToken? token with _ | ⟨k', w⟩
  · simp
  · by_cases hk : k' = k <;> simp [hk]

theorem Says.suffix {token v : String} (h : k.Says token v) : v.toList <:+ token.toList := by
  obtain ⟨-, key, written, -, hcut⟩ := h
  exact ⟨written.toList, by rw [hcut.token_eq, String.toList_append]⟩

end Key

/-! ## One item -/

/-- No comma and no blank stands in the name. -/
def Tag.IsOneItem (t : Tag) : Prop := ∀ c ∈ t.name.toList, c ≠ ',' ∧ Text.isBlank c = false

instance (t : Tag) : Decidable t.IsOneItem :=
  decidable_of_iff (t.name.toList.all fun c => c != ',' && !Text.isBlank c) (by simp [Tag.IsOneItem])

namespace Query

/-- The names that some tokens list under a key. -/
def listed (k : Key) (tokens : List String) : List String :=
  (valuesOf k tokens).flatMap fun v => (Text.commaPieces v).map Text.lower

theorem mem_listed {k : Key} {text name : String} (hl : ∀ c ∈ text.toList, Text.IsLower c)
    (h : name ∈ listed k (Text.words text)) :
    ∀ c ∈ name.toList, c ≠ ',' ∧ Text.isBlank c = false := by
  obtain ⟨v, hv, hname⟩ := List.mem_flatMap.mp h
  obtain ⟨piece, hpiece, rfl⟩ := List.mem_map.mp hname
  obtain ⟨token, htoken, hsaid⟩ := List.mem_filterMap.mp hv
  have hspaced : Text.Spaced (Text.words text) text.toList := Text.words_eq_iff.mp rfl
  have hmem : ∀ c ∈ piece.toList, c ∈ token.toList ∧ c ≠ ',' := fun c hc =>
    ⟨(Key.saidBy?_eq_some_iff.mp hsaid).suffix.subset (Text.mem_commaPieces hpiece c hc).1,
      (Text.mem_commaPieces hpiece c hc).2⟩
  have hlower : Text.lower piece = piece := by
    apply Text.lower_of_isLower
    intro c hc
    exact hl c (hspaced.mem htoken c (hmem c hc).1)
  rw [hlower]
  intro c hc
  exact ⟨(hmem c hc).2, (hspaced.isToken token htoken).2 c (hmem c hc).1⟩

section Spelling

variable {k : Key} {s v : String}

theorem words_spelling (hs : s ∈ k.spellings) (hv : v ≠ "")
    (h : ∀ c ∈ v.toList, Text.isBlank c = false) : Text.words (s ++ v) = [s ++ v] := by
  have hb : ∀ c ∈ (s ++ v).toList, Text.isBlank c = false := by
    intro c hc
    rw [String.toList_append, List.mem_append] at hc
    rcases hc with hc | hc
    · exact (Key.plain_of_mem_spellings k hs c hc).2
    · exact h c hc
  have hspaced : Text.Spaced [s ++ v] ((s ++ v).toList ++ []) :=
    Text.Spaced.nil.token (by simp [hv]) hb (by simp)
  rw [List.append_nil] at hspaced
  exact Text.words_eq_iff.mpr hspaced

/-- What stands behind a key is said under that key, and nothing is left for the free text. -/
theorem valuesOf_spelling (hs : s ∈ k.spellings) (hv : v ≠ "") :
    (∀ k', valuesOf k' [s ++ v] = if k' = k then [v] else []) ∧ freeTokens [s ++ v] = [] := by
  have hof := Key.ofToken?_spelling hs hv
  refine ⟨fun k' => ?_, by simp [freeTokens, kindOf, hof]⟩
  have hsaid : k'.saidBy? (s ++ v) = if k' = k then some v else none := by
    rw [Key.saidBy?, hof]
    simp [eq_comm]
  rw [valuesOf]
  split_ifs at hsaid ⊢ <;> simp [hsaid]

end Spelling

variable {t : Tag} {k : Key} {s : String}

theorem listed_spelling (hs : s ∈ k.spellings) (ht : t.IsNormal) (h : t.IsOneItem) :
    Text.words (s ++ t.name) = [s ++ t.name] ∧
      (∀ k', valuesOf k' [s ++ t.name] = if k' = k then [t.name] else []) ∧
      freeTokens [s ++ t.name] = [] ∧
      (Text.commaPieces t.name).map Text.lower = [t.name] := by
  obtain ⟨hvalues, hfree⟩ := valuesOf_spelling hs ht.nonempty
  refine ⟨words_spelling hs ht.nonempty fun c hc => (h c hc).2, hvalues, hfree, ?_⟩
  rw [Text.commaPieces_of_plain ht.nonempty h, List.map_singleton, ht.lowered]

theorem parse_tags (now : Instant) (ht : t.IsNormal) (h : t.IsOneItem) :
    parse now ("tags:" ++ t.name) = { tags := [t.name], visibleOnly := true } := by
  have hs : "tags:" ∈ Key.tags.spellings := by decide
  obtain ⟨hwords, hvalues, hfree, hitems⟩ := listed_spelling hs ht h
  rw [parse_eq_ofTokens, hwords]
  simp [ofTokens, hvalues, hfree, hitems, sizeOf?]

theorem parse_notTags (now : Instant) (ht : t.IsNormal) (h : t.IsOneItem) :
    parse now ("!tags:" ++ t.name) = { notTags := [t.name], visibleOnly := true } := by
  have hs : "!tags:" ∈ Key.notTags.spellings := by decide
  obtain ⟨hwords, hvalues, hfree, hitems⟩ := listed_spelling hs ht h
  rw [parse_eq_ofTokens, hwords]
  simp [ofTokens, hvalues, hfree, hitems, sizeOf?]

theorem nonBlankItems_name (ht : t.IsNormal) : nonBlankItems [t.name] = [t.name] := by
  have hsome : Text.nonBlank? t.name = some t.name := by
    rw [Text.nonBlank?, ht.trimmed, if_neg ht.nonempty]
  simp [nonBlankItems, hsome]

theorem must_tags (ht : t.IsNormal) (offset size : Nat) (mode : HighlightMode) :
    (page { tags := [t.name], visibleOnly := true } offset size mode).must =
      mode.scope.toList ++ [.term "content.state" (.str "processed"),
        .bool [tagClause t.name] [] [] none, .term "hidden" (.bool false)] := by
  have hnone : nonBlankItems [] = [] := rfl
  simp [page, paged, SearchRequest.must, must, clauseOf?, anyOf?, sizeClauses, updatedClauses,
    tagClauses, contentClauses, hiddenClauses, hnone, nonBlankItems_name ht]

theorem must_notTags (ht : t.IsNormal) (offset size : Nat) (mode : HighlightMode) :
    (page { notTags := [t.name], visibleOnly := true } offset size mode).must =
      mode.scope.toList ++ [.term "content.state" (.str "processed"),
        .bool [] [] [tagClause t.name] none, .term "hidden" (.bool false)] := by
  have hnone : nonBlankItems [] = [] := rfl
  simp [page, paged, SearchRequest.must, must, clauseOf?, anyOf?, sizeClauses, updatedClauses,
    tagClauses, contentClauses, hiddenClauses, hnone, nonBlankItems_name ht]

end Query

namespace Tag

variable {type : TagType} {text : String} {t : Tag}

/-- **A tag is searched for by its name exactly when the name is one item of a query.** Then the query
asks for that tag, or for files without it, and for nothing else. Otherwise that name is not among
those that the query lists. -/
theorem search_by_name (h : make type text = .ok t) (now : Instant) :
    (t.IsOneItem →
      Query.parse now ("tags:" ++ t.name) = { tags := [t.name], visibleOnly := true } ∧
      Query.parse now ("!tags:" ++ t.name) = { notTags := [t.name], visibleOnly := true } ∧
      ∀ offset size mode,
        ((Query.parse now ("tags:" ++ t.name)).page offset size mode).must =
          mode.scope.toList ++ [.term "content.state" (.str "processed"),
            .bool [tagClause t.name] [] [] none, .term "hidden" (.bool false)] ∧
        ((Query.parse now ("!tags:" ++ t.name)).page offset size mode).must =
          mode.scope.toList ++ [.term "content.state" (.str "processed"),
            .bool [] [] [tagClause t.name] none, .term "hidden" (.bool false)]) ∧
    (¬ t.IsOneItem →
      t.name ∉ (Query.parse now ("tags:" ++ t.name)).tags ∧
      t.name ∉ (Query.parse now ("!tags:" ++ t.name)).notTags) := by
  have ht := isNormal_of_make h
  constructor
  · intro hone
    have htags := Query.parse_tags now ht hone
    have hnot := Query.parse_notTags now ht hone
    refine ⟨htags, hnot, fun offset size mode => ?_⟩
    rw [htags, hnot]
    exact ⟨Query.must_tags ht offset size mode, Query.must_notTags ht offset size mode⟩
  · intro hone
    have hlower : ∀ c ∈ t.name.toList, Text.IsLower c := by
      rw [← ht.lowered]
      exact Text.isLower_of_mem_lower
    have hlisted : ∀ {k : Key} {s : String}, s ∈ k.spellings →
        t.name ∉ Query.listed k (Text.words (s ++ t.name)) := by
      intro k s hs hmem
      apply hone
      apply Query.mem_listed _ hmem
      intro c hc
      rw [String.toList_append, List.mem_append] at hc
      rcases hc with hc | hc
      · exact (Key.plain_of_mem_spellings k hs c hc).1
      · exact hlower c hc
    rw [Query.parse_eq_ofTokens, Query.parse_eq_ofTokens]
    exact ⟨hlisted (k := .tags) (by decide), hlisted (k := .notTags) (by decide)⟩

/-- A name with a letter beyond ASCII is one item. -/
theorem search_by_name_street :
    make .manual "  Straße-2024 " = .ok ⟨.manual, "straße-2024"⟩ ∧
      Query.parse ⟨0⟩ "tags:straße-2024" = { tags := ["straße-2024"], visibleOnly := true } := by
  have h : make .manual "  Straße-2024 " = .ok ⟨.manual, "straße-2024"⟩ := by decide +kernel
  exact ⟨h, ((search_by_name h ⟨0⟩).1 (by decide +kernel)).1⟩

/-- A tab within a name is kept, and cuts the name in two where it is searched for. -/
theorem search_by_name_tab :
    make .manual "tax\treport" = .ok ⟨.manual, "tax\treport"⟩ ∧
      Query.parse ⟨0⟩ "tags:tax\treport" =
        { content := some "report", tags := ["tax"], visibleOnly := true } ∧
      Query.parse ⟨0⟩ "tags:tax\treport" ≠ { tags := ["tax\treport"], visibleOnly := true } := by
  decide +kernel

end Tag

end DocSearch
