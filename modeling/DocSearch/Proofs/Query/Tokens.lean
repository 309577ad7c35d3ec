import Mathlib
import DocSearch.Proofs.Query.Period
import DocSearch.Proofs.Query.Size
/-!
# Every field of a query is told by the tokens of its kind

What a query is, told without its reader: by what each token says, by the items between commas, by the
sizes and periods that a value says, and by the words for what is shown.

* `HasKind`: the kind of a token.
* `IsLast`: what the last token tells that tells anything; `isLast_iff`.
* `Gathers`: the items of all tokens of a kind, side by side; `gathers_iff`.
* `Query.FieldsFrom`: a query has each field from the tokens of its kind; `fieldsFrom_iff`.
* **`Query.parse_by_tokens`**: the query of a text is the one that has its fields from the tokens of the
  text; so neither the order of tokens of different kinds nor the blanks between tokens count.
-/

namespace DocSearch

/-- The kind of a token is the key under which it says something, or none for free text. -/
def HasKind (token : String) : Option Key → Prop
  | some k => ∃ v, k.Says token v
  | none => ∀ k v, ¬ Key.Says k token v

theorem hasKind_iff {token : String} {kind : Option Key} : HasKind token kind ↔ kindOf token = kind := by
  cases h : Key.ofToken? token with
  | none =>
    have hnone : ∀ k v, ¬ Key.Says k token v := by
      intro k v hs
      rw [← Key.ofToken?_eq_some_iff, h] at hs
      cases hs
    cases kind <;> simp [HasKind, kindOf, h, hnone]
  | some p =>
    obtain ⟨k, v⟩ := p
    have hone : ∀ k' v', Key.Says k' token v' ↔ k' = k ∧ v' = v := by
      intro k' v'
      rw [← Key.ofToken?_eq_some_iff, h, Option.some.injEq, Prod.mk.injEq, eq_comm, eq_comm (a := v)]
    cases kind <;> simp [HasKind, kindOf, h, hone, eq_comm]

instance (token : String) (kind : Option Key) : Decidable (HasKind token kind) :=
  decidable_of_iff _ hasKind_iff.symm

/-! ## The last token -/

section Last

variable {α : Type}

/-- What the last of those tokens tells that tell anything, if there is one. -/
def IsLast (Tells : String → α → Prop) (tokens : List String) : Option α → Prop
  | none => ∀ token ∈ tokens, ∀ a, ¬ Tells token a
  | some a => ∃ before token after, tokens = before ++ token :: after ∧ Tells token a ∧
      ∀ later ∈ after, ∀ b, ¬ Tells later b

variable {Tells : String → α → Prop} {f : String → Option α} {tokens : List String}

theorem isLast_iff (h : ∀ token ∈ tokens, ∀ a, f token = some a ↔ Tells token a) {a : Option α} :
    IsLast Tells tokens a ↔ (tokens.filterMap f).getLast? = a := by
  have hsilent : ∀ rest ⊆ tokens, (rest.filterMap f = [] ↔ ∀ token ∈ rest, ∀ a, ¬ Tells token a) := by
    intro rest hrest
    rw [List.filterMap_eq_nil_iff]
    refine forall₂_congr fun token ht => ?_
    rw [Option.eq_none_iff_forall_ne_some]
    exact forall_congr' fun a => not_congr (h token (hrest ht) a)
  cases a with
  | none => rw [List.getLast?_eq_none_iff, hsilent tokens (List.Subset.refl _), IsLast]
  | some a =>
    rw [List.getLast?_eq_some_iff]
    constructor
    · rintro ⟨before, token, after, rfl, htells, hafter⟩
      have htoken : f token = some a := (h token (by simp) a).mpr htells
      have hnil : after.filterMap f = [] := (hsilent after fun t ht => by simp [ht]).mpr hafter
      exact ⟨before.filterMap f, by
        rw [List.filterMap_append, List.filterMap_cons_some htoken, hnil]⟩
    · rintro ⟨told, htold⟩
      obtain ⟨before, rest, rfl, -, hrest⟩ := List.filterMap_eq_append_iff.mp htold
      obtain ⟨silent, token, after, rfl, -, htoken, hafter⟩ := List.filterMap_eq_cons_iff.mp hrest
      refine ⟨before ++ silent, token, after, (List.append_assoc ..).symm, ?_, ?_⟩
      · exact (h token (by simp) a).mp htoken
      · exact (hsilent after fun t ht => by simp [ht]).mp hafter

end Last

/-! ## Items -/

/-- The items that the tokens of a key list, side by side. -/
inductive Gathers (k : Key) : List String → List String → Prop
  | nil : Gathers k [] []
  | other {token tokens items} (h : ∀ v, ¬ k.Says token v) (ht : Gathers k tokens items) :
      Gathers k (token :: tokens) items
  | listed {token v pieces tokens items} (h : k.Says token v) (hv : Text.Lists v pieces)
      (ht : Gathers k tokens items) : Gathers k (token :: tokens) (pieces ++ items)

/-! ## Values without blanks -/

section Values

variable {α : Type} {k : Key} {tokens : List String}

theorem Key.Says.plain {token v : String} (h : k.Says token v)
    (hb : ∀ c ∈ token.toList, Text.isBlank c = false) : ∀ c ∈ v.toList, Text.isBlank c = false :=
  fun c hc => hb c (h.suffix.subset hc)

theorem isLast_said_iff (hb : Text.AreTokens tokens) {Tells : String → α → Prop}
    {f : String → Option α}
    (h : ∀ v, (∀ c ∈ v.toList, Text.isBlank c = false) → ∀ a, f v = some a ↔ Tells v a)
    {a : Option α} :
    IsLast (fun token a => ∃ v, k.Says token v ∧ Tells v a) tokens a ↔
      ((valuesOf k tokens).filterMap f).getLast? = a := by
  rw [valuesOf, List.filterMap_filterMap]
  refine isLast_iff fun token ht a => ?_
  rw [Option.bind_eq_some_iff]
  refine exists_congr fun v => ?_
  rw [Key.saidBy?_eq_some_iff]
  exact and_congr_right fun hs => h v (hs.plain (hb token ht).2) a

theorem gathers_iff (hb : Text.AreTokens tokens) {items : List String} :
    Gathers k tokens items ↔ (valuesOf k tokens).flatMap Text.commaPieces = items := by
  constructor
  · intro h
    induction h with
    | nil => rfl
    | @other token tokens items h ht ih =>
      have hsaid : k.saidBy? token = none :=
        Option.eq_none_iff_forall_ne_some.mpr fun v hv => h v (Key.saidBy?_eq_some_iff.mp hv)
      rw [valuesOf, List.filterMap_cons_none hsaid]
      exact ih (List.forall_mem_cons.mp hb).2
    | @listed token v pieces tokens items h hv ht ih =>
      obtain ⟨⟨-, htoken⟩, hrest⟩ := List.forall_mem_cons.mp hb
      have hsaid : k.saidBy? token = some v := Key.saidBy?_eq_some_iff.mpr h
      rw [valuesOf, List.filterMap_cons_some hsaid, List.flatMap_cons,
        (Text.commaPieces_eq_iff (h.plain htoken)).mpr hv]
      exact congrArg (pieces ++ ·) (ih hrest)
  · rintro rfl
    induction tokens with
    | nil => exact .nil
    | cons token tokens ih =>
      obtain ⟨⟨-, htoken⟩, hrest⟩ := List.forall_mem_cons.mp hb
      cases hsaid : k.saidBy? token with
      | none =>
        rw [valuesOf, List.filterMap_cons_none hsaid]
        refine .other (fun v hv => ?_) (ih hrest)
        rw [Key.saidBy?_eq_some_iff.mpr hv] at hsaid
        cases hsaid
      | some v =>
        have hterm := Key.saidBy?_eq_some_iff.mp hsaid
        rw [valuesOf, List.filterMap_cons_some hsaid, List.flatMap_cons]
        exact .listed hterm ((Text.commaPieces_eq_iff (hterm.plain htoken)).mp rfl) (ih hrest)

end Values

/-- The words for what is shown, in lowercase. -/
def Visibility.word : Visibility → String
  | removed => "removed"
  | all => "all"

theorem Visibility.ofText?_eq_some_iff {value : String} {shown : Visibility} :
    ofText? value = some shown ↔ Text.lower value = shown.word := by
  unfold ofText?
  split
  · next h => cases shown <;> simp [h, word]
  · next h => cases shown <;> simp [h, word]
  · next hremoved hall =>
    cases shown with
    | removed => exact iff_of_false nofun hremoved
    | all => exact iff_of_false nofun hall

namespace Query

/-- A query has each field from the tokens of its kind. -/
structure FieldsFrom (today : Day) (tokens : List String) (q : Query) : Prop where
  name : IsLast (Key.Says .name) tokens q.name
  author : IsLast (Key.Says .author) tokens q.author
  source : Gathers .source tokens q.source
  tags : ∃ items, Gathers .tags tokens items ∧ q.tags = items.map Text.lower
  notTags : ∃ items, Gathers .notTags tokens items ∧ q.notTags = items.map Text.lower
  atLeast : IsLast (fun token n => ∃ v, Key.Says .atLeast token v ∧ IsSize v n) tokens
    (q.size.bind SizeRange.gte)
  atMost : IsLast (fun token n => ∃ v, Key.Says .atMost token v ∧ IsSize v n) tokens
    (q.size.bind SizeRange.lte)
  size : q.size ≠ some {}
  updated : IsLast (fun token range => ∃ v, Key.Says .updated token v ∧
    ∃ (p : Period) (d : Day), p.IsSpelt v ∧ p.BeginsOn today d ∧ p.rangeFrom d = range) tokens q.updated
  visibility : ∃ last, IsLast (fun token (shown : Visibility) => ∃ v, Key.Says .visibility token v ∧
      Text.lower v = shown.word) tokens last ∧
    (q.hiddenOnly = true ↔ last = some .removed) ∧ (q.visibleOnly = true ↔ last = none)
  content : q.content =
    if tokens.filter (HasKind · none) = [] ∨ tokens.filter (HasKind · none) = ["*"] then none
    else some (String.intercalate " " (tokens.filter (HasKind · none)))

theorem eq_sizeOf?_iff {size : Option SizeRange} {gte lte : Option Nat} :
    size = sizeOf? gte lte ↔
      size.bind SizeRange.gte = gte ∧ size.bind SizeRange.lte = lte ∧ size ≠ some {} := by
  constructor
  · rintro rfl
    cases gte <;> cases lte <;> simp [sizeOf?]
  · rintro ⟨rfl, rfl, hne⟩
    rcases size with _ | ⟨_ | gte, _ | lte⟩
    · rfl
    · exact absurd rfl hne
    · rfl
    · rfl
    · rfl

variable {today : Day} {tokens : List String} {q : Query}

theorem freeTokens_eq : freeTokens tokens = tokens.filter (HasKind · none) :=
  List.filter_congr fun _ _ => decide_eq_decide.mpr hasKind_iff.symm

theorem fieldsFrom_iff (hb : Text.AreTokens tokens) :
    FieldsFrom today tokens q ↔ q = ofTokens today tokens := by
  have hvalue : ∀ k a, IsLast (Key.Says k) tokens a ↔ (valuesOf k tokens).getLast? = a :=
    fun k a => isLast_iff fun _ _ _ => Key.saidBy?_eq_some_iff
  have hsize : ∀ k a, IsLast (fun token n => ∃ v, Key.Says k token v ∧ IsSize v n) tokens a ↔
      ((valuesOf k tokens).filterMap bytes?).getLast? = a :=
    fun k a => isLast_said_iff hb fun v hv n => bytes?_eq_some_iff hv
  have hperiod : ∀ a, IsLast (fun token range => ∃ v, Key.Says .updated token v ∧
      ∃ (p : Period) (d : Day), p.IsSpelt v ∧ p.BeginsOn today d ∧ p.rangeFrom d = range) tokens a ↔
        ((valuesOf .updated tokens).filterMap (period? today)).getLast? = a :=
    fun a => isLast_said_iff hb fun v _ range => Period.period?_eq_some_iff
  have hshown : ∀ a, IsLast (fun token (shown : Visibility) => ∃ v, Key.Says .visibility token v ∧
      Text.lower v = shown.word) tokens a ↔
        ((valuesOf .visibility tokens).filterMap Visibility.ofText?).getLast? = a :=
    fun a => isLast_said_iff hb fun v _ shown => Visibility.ofText?_eq_some_iff
  constructor
  · intro h
    obtain ⟨tags, htags, ht⟩ := h.tags
    obtain ⟨notTags, hnotTags, hn⟩ := h.notTags
    obtain ⟨last, hlast, hhidden, hvisible⟩ := h.visibility
    rw [hshown] at hlast
    rcases q with ⟨content, name, author, source, size, updated, tags', notTags', hidden, visible⟩
    simp only [ofTokens, mk.injEq]
    refine ⟨?_, ((hvalue _ _).mp h.name).symm, ((hvalue _ _).mp h.author).symm,
      ((gathers_iff hb).mp h.source).symm, ?_, ((hperiod _).mp h.updated).symm, ?_, ?_, ?_, ?_⟩
    · rw [freeTokens_eq]
      exact h.content
    · exact eq_sizeOf?_iff.mpr
        ⟨((hsize _ _).mp h.atLeast).symm, ((hsize _ _).mp h.atMost).symm, h.size⟩
    · rw [← List.map_flatMap, (gathers_iff hb).mp htags]
      exact ht
    · rw [← List.map_flatMap, (gathers_iff hb).mp hnotTags]
      exact hn
    · rw [hlast]
      exact Bool.eq_iff_iff.mpr (hhidden.trans decide_eq_true_iff.symm)
    · rw [hlast]
      exact Bool.eq_iff_iff.mpr (hvisible.trans decide_eq_true_iff.symm)
  · rintro rfl
    exact {
      name := (hvalue _ _).mpr rfl
      author := (hvalue _ _).mpr rfl
      source := (gathers_iff hb).mpr rfl
      tags := ⟨_, (gathers_iff hb).mpr rfl, List.map_flatMap.symm⟩
      notTags := ⟨_, (gathers_iff hb).mpr rfl, List.map_flatMap.symm⟩
      atLeast := (hsize _ _).mpr (eq_sizeOf?_iff.mp rfl).1.symm
      atMost := (hsize _ _).mpr (eq_sizeOf?_iff.mp rfl).2.1.symm
      size := (eq_sizeOf?_iff.mp rfl).2.2
      updated := (hperiod _).mpr rfl
      visibility := ⟨_, (hshown _).mpr rfl, decide_eq_true_iff, decide_eq_true_iff⟩
      content := by rw [← freeTokens_eq]; rfl }

theorem areTokens_words (text : String) : Text.AreTokens (Text.words text) :=
  (Text.words_eq_iff.mp rfl).isToken

/-- **Each field of a query is decided by its own tokens alone.** The query of a text is the one that has
each field from the tokens of its kind, and it never asks for hidden and visible files alike. A text
with these tokens, those of each kind in the same order, has the same query, however they are spaced. -/
theorem parse_by_tokens (now : Instant) (text : String) :
    Text.Spaced (Text.words text) text.toList ∧
    (∀ q, FieldsFrom now.day (Text.words text) q ↔ q = parse now text) ∧
    ¬ ((parse now text).hiddenOnly = true ∧ (parse now text).visibleOnly = true) ∧
    ∀ tokens' text', Text.Spaced tokens' text'.toList →
      (∀ kind, tokens'.filter (HasKind · kind) = (Text.words text).filter (HasKind · kind)) →
      parse now text' = parse now text := by
  refine ⟨Text.words_eq_iff.mp rfl, fun q => ?_, ?_, fun tokens' text' hs hk => ?_⟩
  · rw [parse_eq_ofTokens]
    exact fieldsFrom_iff (areTokens_words text)
  · rw [parse_eq_ofTokens]
    rintro ⟨hh, hv⟩
    have hh' := of_decide_eq_true hh
    have hv' := of_decide_eq_true hv
    rw [hh'] at hv'
    cases hv'
  · rw [parse_eq_ofTokens, parse_eq_ofTokens, Text.words_eq_iff.mpr hs]
    apply ofTokens_congr
    intro kind
    simpa only [hasKind_iff] using hk kind

/-- A size that cannot be read and a name without a text change nothing, the latter being free text. -/
example : parse ⟨0⟩ "TAGS:b,,C size>1.5kB size>x show:All author:a name: *" =
    { author := some "a", tags := ["b", "c"], size := some { gte := some 1536 },
      content := some "name: *" } := by
  decide +kernel

/-- The tokens of two kinds change places, and a tab stands between them. -/
theorem parse_by_tokens_swapped (now : Instant) :
    Text.Spaced ["size>2k", "a", "name:x", "tags:b,C", "name:y"]
      " size>2k\ta name:x  tags:b,C name:y".toList ∧
    (∀ kind, ["size>2k", "a", "name:x", "tags:b,C", "name:y"].filter (HasKind · kind) =
      (Text.words "tags:b,C name:x a name:y size>2k").filter (HasKind · kind)) ∧
    parse now " size>2k\ta name:x  tags:b,C name:y" = parse now "tags:b,C name:x a name:y size>2k" := by
  have hs : Text.Spaced ["size>2k", "a", "name:x", "tags:b,C", "name:y"]
      " size>2k\ta name:x  tags:b,C name:y".toList := Text.words_eq_iff.mp (by decide +kernel)
  have hk : ∀ kind, ["size>2k", "a", "name:x", "tags:b,C", "name:y"].filter (HasKind · kind) =
      (Text.words "tags:b,C name:x a name:y size>2k").filter (HasKind · kind) := by
    rintro (_ | k)
    · decide +kernel
    · cases k <;> decide +kernel
  exact ⟨hs, hk, (parse_by_tokens now _).2.2.2 _ _ hs hk⟩

end Query

end DocSearch
