import Mathlib
import DocSearch.Proofs.Text.Words
import DocSearch.Query.Parser
/-!
# Every field of a query is decided by its own tokens

The terms of a text are taken into the query one after another. What each field has become in the end
depends on the tokens of one kind, in their order, and on nothing else.

* `Key.saidBy?`, `valuesOf`, `freeTokens`, `kindOf`: tokens by their kinds.
* `Query.ofTokens`: the query that has each field from its own tokens.
* `accept_ofToken`: one more token reaches the field of its kind; `foldl_accept`: all tokens do.
* `freeText?_map`: the free text is absent only where there is no free token, or a lone star.
* `ofTokens_congr`: the order of tokens of different kinds does not count.
* **`parse_eq_ofTokens`**: the query of a text is the one from its tokens.
-/

namespace DocSearch

/-! ## Tokens by their kinds -/

/-- What a token says under a key. -/
def Key.saidBy? (k : Key) (token : String) : Option String :=
  (ofToken? token).bind fun p => if p.1 = k then some p.2 else none

/-- What some tokens say under a key. -/
def valuesOf (k : Key) (tokens : List String) : List String := tokens.filterMap k.saidBy?

/-- The key of a token, absent from free text. -/
def kindOf (token : String) : Option Key := (Key.ofToken? token).map Prod.fst

/-- The tokens of free text. -/
def freeTokens (tokens : List String) : List String := tokens.filter (kindOf · = none)

theorem valuesOf_filter (k : Key) (tokens : List String) :
    valuesOf k (tokens.filter (kindOf · = some k)) = valuesOf k tokens := by
  rw [valuesOf, List.filterMap_filter]
  refine List.filterMap_congr fun token _ => ?_
  rw [Key.saidBy?, kindOf]
  rcases Key.ofToken? token with _ | ⟨k', v⟩
  · rfl
  · by_cases hk : k' = k <;> simp [hk]

namespace Query

/-- A range with these bounds, if there is one at all. -/
def sizeOf? : Option Nat → Option Nat → Option SizeRange
  | none, none => none
  | gte, lte => some ⟨gte, lte⟩

/-- The query that has each field from its own tokens. -/
def ofTokens (today : Day) (tokens : List String) : Query where
  name := (valuesOf .name tokens).getLast?
  author := (valuesOf .author tokens).getLast?
  source := (valuesOf .source tokens).flatMap Text.commaPieces
  tags := (valuesOf .tags tokens).flatMap fun v => (Text.commaPieces v).map Text.lower
  notTags := (valuesOf .notTags tokens).flatMap fun v => (Text.commaPieces v).map Text.lower
  size := sizeOf? ((valuesOf .atLeast tokens).filterMap bytes?).getLast?
    ((valuesOf .atMost tokens).filterMap bytes?).getLast?
  updated := ((valuesOf .updated tokens).filterMap (period? today)).getLast?
  hiddenOnly :=
    ((valuesOf .visibility tokens).filterMap Visibility.ofText?).getLast? = some .removed
  visibleOnly := ((valuesOf .visibility tokens).filterMap Visibility.ofText?).getLast? = none
  content :=
    if freeTokens tokens = [] ∨ freeTokens tokens = ["*"] then none
    else some (String.intercalate " " (freeTokens tokens))

/-! ## One more token -/

/-- The query of some tokens but for its free text. -/
def keyed (today : Day) (tokens : List String) : Query :=
  { ofTokens today tokens with content := none }

theorem valuesOf_concat (k : Key) (tokens : List String) (token : String) :
    valuesOf k (tokens ++ [token]) = valuesOf k tokens ++ (k.saidBy? token).toList := by
  rw [valuesOf, valuesOf, List.filterMap_append]
  cases h : k.saidBy? token <;> simp [h]

@[simp] theorem getD_sizeOf? (gte lte : Option Nat) : (sizeOf? gte lte).getD {} = ⟨gte, lte⟩ := by
  cases gte <;> cases lte <;> rfl

@[simp] theorem sizeOf?_some_left (n : Nat) (lte : Option Nat) :
    sizeOf? (some n) lte = some ⟨some n, lte⟩ := by
  cases lte <;> rfl

@[simp] theorem sizeOf?_some_right (gte : Option Nat) (n : Nat) :
    sizeOf? gte (some n) = some ⟨gte, some n⟩ := by
  cases gte <;> rfl

/-- **Every token reaches the field of its kind and no other one.** -/
theorem accept_ofToken (today : Day) (tokens : List String) (token : String) :
    (keyed today tokens).accept (Term.ofToken today token) = keyed today (tokens ++ [token]) := by
  rw [Term.ofToken]
  cases h : Key.ofToken? token with
  | none =>
    have hs : ∀ k : Key, k.saidBy? token = none := fun k => by rw [Key.saidBy?, h]; rfl
    simp [accept, keyed, ofTokens, valuesOf_concat, hs]
  | some p =>
    obtain ⟨key, value⟩ := p
    have hs : ∀ k : Key, k.saidBy? token = if key = k then some value else none := fun k => by
      rw [Key.saidBy?, h]
      rfl
    cases key with
    | name | author | source | notTags | tags =>
      simp [accept, Term.ofValue, keyed, ofTokens, valuesOf_concat, hs]
    | atLeast | atMost =>
      cases hb : bytes? value with
      | none => simp [accept, Term.ofValue, keyed, ofTokens, valuesOf_concat, hs, hb]
      | some n => simp [accept, Term.ofValue, keyed, ofTokens, valuesOf_concat, hs, hb]
    | updated =>
      cases hp : period? today value <;>
        simp [accept, Term.ofValue, keyed, ofTokens, valuesOf_concat, hs, hp]
    | visibility =>
      cases hv : Visibility.ofText? value with
      | none => simp [accept, Term.ofValue, keyed, ofTokens, valuesOf_concat, hs, hv]
      | some v => cases v <;> simp [accept, Term.ofValue, keyed, ofTokens, valuesOf_concat, hs, hv]

theorem foldl_accept (today : Day) (tokens : List String) :
    (tokens.map (Term.ofToken today)).foldl accept { visibleOnly := true } = keyed today tokens := by
  induction tokens using List.reverseRecOn with
  | nil => rfl
  | append_singleton tokens token ih =>
    rw [List.map_append, List.foldl_append, ih]
    exact accept_ofToken today tokens token

/-! ## Free text -/

theorem freeToken?_ofToken (today : Day) (token : String) :
    freeToken? (Term.ofToken today token) = if kindOf token = none then some token else none := by
  rw [Term.ofToken, kindOf]
  rcases Key.ofToken? token with _ | ⟨key, value⟩
  · rfl
  · cases key <;> rfl

theorem filterMap_freeToken? (today : Day) (tokens : List String) :
    (tokens.map (Term.ofToken today)).filterMap freeToken? = freeTokens tokens := by
  rw [List.filterMap_map, freeTokens, ← List.filterMap_eq_filter]
  refine List.filterMap_congr fun token _ => ?_
  rw [Function.comp_apply, freeToken?_ofToken, Option.guard]
  simp

/-- Tokens are joined to nothing only if there is none, and to a star only if there is just that. -/
theorem intercalate_eq_iff {tokens : List String} (h : ∀ t ∈ tokens, t ≠ "") :
    (String.intercalate " " tokens = "" ↔ tokens = []) ∧
      (String.intercalate " " tokens = "*" ↔ tokens = ["*"]) := by
  match tokens with
  | [] => simp
  | [t] => simpa using h t
  | t :: u :: rest =>
    have ht : 0 < t.length := by
      rw [Nat.pos_iff_ne_zero, ne_eq, String.length_eq_zero_iff]
      exact h t List.mem_cons_self
    -- There are a character of the first token and a space.
    have hl : 1 < (String.intercalate " " (t :: u :: rest)).length := by
      rw [String.intercalate_cons_cons, String.length_append, String.length_append]
      have hspace : (" " : String).length = 1 := rfl
      omega
    refine ⟨⟨fun e => ?_, nofun⟩, ⟨fun e => ?_, fun e => by simp at e⟩⟩
    · rw [e] at hl
      exact absurd hl (by decide)
    · rw [e] at hl
      exact absurd hl (by decide)

theorem freeText?_map {tokens : List String} (h : ∀ t ∈ tokens, t ≠ "") (today : Day) :
    freeText? (tokens.map (Term.ofToken today)) =
      if freeTokens tokens = [] ∨ freeTokens tokens = ["*"] then none
      else some (String.intercalate " " (freeTokens tokens)) := by
  have hfree : ∀ t ∈ freeTokens tokens, t ≠ "" := fun t ht => h t (List.mem_of_mem_filter ht)
  obtain ⟨he, hs⟩ := intercalate_eq_iff hfree
  rw [freeText?, filterMap_freeToken?]
  simp only [he, hs]

/-! ## The whole text -/

/-- **The query of some tokens has each field from its own ones.** -/
theorem ofTerms_map {tokens : List String} (h : ∀ t ∈ tokens, t ≠ "") (today : Day) :
    ofTerms (tokens.map (Term.ofToken today)) = ofTokens today tokens := by
  rw [ofTerms, foldl_accept, freeText?_map h]
  rfl

theorem ofTokens_congr {tokens tokens' : List String}
    (h : ∀ kind, tokens'.filter (kindOf · = kind) = tokens.filter (kindOf · = kind)) (today : Day) :
    ofTokens today tokens' = ofTokens today tokens := by
  have hv : ∀ k, valuesOf k tokens' = valuesOf k tokens := fun k => by
    rw [← valuesOf_filter, h, valuesOf_filter]
  have hf : freeTokens tokens' = freeTokens tokens := h none
  simp only [ofTokens, hv, hf]

/-- **The query of a text has each field from its own tokens.** -/
theorem parse_eq_ofTokens (now : Instant) (text : String) :
    parse now text = ofTokens now.day (Text.words text) := by
  apply ofTerms_map
  intro token h
  exact ((Text.words_eq_iff.mp rfl).isToken token h).1

end Query

end DocSearch
