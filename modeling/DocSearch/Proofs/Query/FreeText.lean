import Mathlib
import DocSearch.Proofs.Query.Parser
/-!
# Free text is read as free text again

* `freeTokens_freeTokens`, `valuesOf_freeTokens`: what kind a token is of does not depend on where it
  stands, so the free tokens of a text are free tokens on their own.
* `content_ofTokens_eq_some_iff`: when there is free text, and what it is.
* `ofTokens_freeTokens`: the free tokens alone ask for the same free text and for nothing else.
* **`Query.parse_content`**: the free text of a query, read as a query, asks for itself.
-/

namespace DocSearch

theorem freeTokens_freeTokens (tokens : List String) :
    freeTokens (freeTokens tokens) = freeTokens tokens := by
  simp only [freeTokens, List.filter_filter, Bool.and_self]

theorem valuesOf_freeTokens (k : Key) (tokens : List String) :
    valuesOf k (freeTokens tokens) = [] := by
  rw [valuesOf, List.filterMap_eq_nil_iff]
  intro token h
  have hfree : Key.ofToken? token = none := by
    simpa [kindOf] using (List.mem_filter.mp h).2
  rw [Key.saidBy?, hfree, Option.bind_none]

namespace Query

variable {today : Day} {tokens : List String} {c : String}

theorem content_ofTokens_eq_some_iff :
    (ofTokens today tokens).content = some c ↔
      (freeTokens tokens ≠ [] ∧ freeTokens tokens ≠ ["*"]) ∧
        String.intercalate " " (freeTokens tokens) = c := by
  rw [← not_or]
  simp only [ofTokens]
  split_ifs with h
  · simp [h]
  · simp [h]

/-- **The free tokens alone ask for the same free text**, and for nothing else. -/
theorem ofTokens_freeTokens (today' : Day) (h : (ofTokens today tokens).content = some c) :
    ofTokens today' (freeTokens tokens) = { content := some c, visibleOnly := true } := by
  have hcontent : (ofTokens today' (freeTokens tokens)).content = some c := by
    rw [content_ofTokens_eq_some_iff] at h ⊢
    rwa [freeTokens_freeTokens]
  have hkeyed : keyed today' (freeTokens tokens) = { visibleOnly := true } := by
    simp [keyed, ofTokens, valuesOf_freeTokens, sizeOf?]
  calc ofTokens today' (freeTokens tokens)
      = { keyed today' (freeTokens tokens) with
          content := (ofTokens today' (freeTokens tokens)).content } := rfl
    _ = { content := some c, visibleOnly := true } := by rw [hcontent, hkeyed]

/-- **The free text of a query asks for itself.** Read as a query, at whatever time, it has no part but
itself. There is no blank at its ends, no two blanks stand side by side in it, and it is no lone star. -/
theorem parse_content {now : Instant} {text : String} (h : (parse now text).content = some c)
    (now' : Instant) :
    parse now' c = { content := some c, visibleOnly := true } ∧
      Text.trim c = c ∧ Text.BlanksApart c.toList ∧ c ≠ "" ∧ c ≠ "*" := by
  rw [parse_eq_ofTokens] at h
  have htokens : Text.AreTokens (freeTokens (Text.words text)) := fun t ht =>
    (Text.words_eq_iff.mp rfl).isToken t (List.mem_of_mem_filter ht)
  obtain ⟨⟨hne, hstar⟩, rfl⟩ := content_ofTokens_eq_some_iff.mp h
  obtain ⟨hempty, hlone⟩ := intercalate_eq_iff fun t ht => (htokens t ht).1
  refine ⟨?_, Text.trim_intercalate htokens, Text.blanksApart_intercalate htokens,
    mt hempty.mp hne, mt hlone.mp hstar⟩
  rw [parse_eq_ofTokens, Text.words_intercalate htokens]
  exact ofTokens_freeTokens now'.day h

/-- Among the free tokens are a key with nothing behind it, a star, and a key behind another character. -/
theorem parse_content_bareKey :
    (parse ⟨0⟩ " tags:  size>2k\t* \u00A0'when:today name:x ").content =
        some "tags: * 'when:today" ∧
      parse ⟨86400000⟩ "tags: * 'when:today" =
        { content := some "tags: * 'when:today", visibleOnly := true } := by
  have h : (parse ⟨0⟩ " tags:  size>2k\t* \u00A0'when:today name:x ").content =
      some "tags: * 'when:today" := by decide +kernel
  exact ⟨h, (parse_content h ⟨86400000⟩).1⟩

end Query

end DocSearch
