import Mathlib
import DocSearch.Proofs.Text.Blank
/-!
# The words of a text

* `Spaced`: tokens that are not blank, with blanks around them.
* **`words_eq_iff`**: the words of a text are the tokens that it spaces; so blanks decide nothing but
  where a token ends.
* `words_intercalate`: tokens with single spaces between them are read back; `trim_intercalate`,
  `blanksApart_intercalate`: such a text is trimmed, and no two blanks stand side by side in it.
* `commaPieces_of_plain`: a word without a comma is its only piece; `mem_commaPieces`: no piece holds
  a comma.
* `Lists`: the items that stand between the commas of a text; **`commaPieces_eq_iff`**: they are its
  pieces.
-/

namespace DocSearch.Text

/-- A text of tokens, with blanks around them and between any two. -/
inductive Spaced : List String → List Char → Prop
  | nil : Spaced [] []
  | blank {tokens cs c} (hc : isBlank c = true) (h : Spaced tokens cs) : Spaced tokens (c :: cs)
  | token {tokens cs token} (hne : token ≠ "") (hb : ∀ c ∈ token.toList, isBlank c = false)
      (hend : ∀ c ∈ cs.head?, isBlank c = true) (h : Spaced tokens cs) :
      Spaced (token :: tokens) (token.toList ++ cs)

theorem Spaced.isToken {tokens : List String} {cs : List Char} (h : Spaced tokens cs) :
    ∀ t ∈ tokens, t ≠ "" ∧ ∀ c ∈ t.toList, isBlank c = false := by
  induction h with
  | nil => simp
  | blank _ _ ih => exact ih
  | token hne hb _ _ ih => exact List.forall_mem_cons.mpr ⟨⟨hne, hb⟩, ih⟩

theorem Spaced.mem {tokens : List String} {cs : List Char} (h : Spaced tokens cs) {t : String}
    (ht : t ∈ tokens) : ∀ c ∈ t.toList, c ∈ cs := by
  induction h with
  | nil => cases ht
  | blank _ _ ih => exact fun c hc => List.mem_cons_of_mem _ (ih ht c hc)
  | token _ _ _ _ ih =>
    rcases List.mem_cons.mp ht with rfl | ht
    · exact fun c hc => List.mem_append_left _ hc
    · exact fun c hc => List.mem_append_right _ (ih ht c hc)

/-- The longest parts without blanks. -/
def runs (cs : List Char) : List String :=
  ((cs.splitOnP isBlank).filter (!·.isEmpty)).map .ofList

theorem runs_blank {c : Char} (hc : isBlank c = true) (cs : List Char) : runs (c :: cs) = runs cs := by
  rw [runs, List.splitOnP_cons_eq_if_modifyHead, if_pos hc, List.filter_cons_of_neg (by simp)]
  rfl

theorem runs_token {token : String} (hne : token ≠ "")
    (hb : ∀ c ∈ token.toList, isBlank c = false) {cs : List Char}
    (hend : ∀ c ∈ cs.head?, isBlank c = true) : runs (token.toList ++ cs) = token :: runs cs := by
  have hl : token.toList.isEmpty = false := by simpa using hne
  cases cs with
  | nil =>
    rw [List.append_nil, runs, List.splitOnP_eq_singleton hb, List.filter_cons_of_pos (by simp [hl]),
      List.map_cons, String.ofList_toList]
    rfl
  | cons c cs =>
    have hc : isBlank c = true := hend c rfl
    rw [runs_blank hc, runs, List.splitOnP_append_cons_of_forall_mem hb c hc,
      List.filter_cons_of_pos (by simp [hl]), List.map_cons, String.ofList_toList]
    rfl

theorem Spaced.runs_eq {tokens : List String} {cs : List Char} (h : Spaced tokens cs) :
    runs cs = tokens := by
  induction h with
  | nil => rfl
  | blank hc _ ih => rw [runs_blank hc, ih]
  | token hne hb hend _ ih => rw [runs_token hne hb hend, ih]

theorem exists_spaced (cs : List Char) : ∃ tokens, Spaced tokens cs := by
  induction hn : cs.length using Nat.strong_induction_on generalizing cs with
  | _ n ih =>
    rcases cs with _ | ⟨c, cs⟩
    · exact ⟨[], .nil⟩
    rw [List.length_cons] at hn
    cases hc : isBlank c with
    | true =>
      obtain ⟨tokens, h⟩ := ih cs.length (by omega) cs rfl
      exact ⟨tokens, h.blank hc⟩
    | false =>
      set run := cs.takeWhile (!isBlank ·)
      set rest := cs.dropWhile (!isBlank ·)
      have hlen : rest.length ≤ cs.length := (List.dropWhile_sublist _).length_le
      obtain ⟨tokens, h⟩ := ih rest.length (by omega) rest rfl
      have hb : ∀ a ∈ (String.ofList (c :: run)).toList, isBlank a = false := by
        rw [String.toList_ofList, List.forall_mem_cons]
        exact ⟨hc, fun a ha => by simpa using List.mem_takeWhile_imp ha⟩
      have hend : ∀ a ∈ rest.head?, isBlank a = true := fun a ha => by
        have hd := List.head?_dropWhile_not (!isBlank ·) cs
        rw [show (cs.dropWhile (!isBlank ·)).head? = some a from ha] at hd
        simpa using hd
      have hs : Spaced (.ofList (c :: run) :: tokens) ((String.ofList (c :: run)).toList ++ rest) :=
        h.token (by simp) hb hend
      rw [String.toList_ofList, List.cons_append, List.takeWhile_append_dropWhile] at hs
      exact ⟨_, hs⟩

/-- **The words of a text are the tokens that it spaces.** -/
theorem words_eq_iff {s : String} {tokens : List String} :
    words s = tokens ↔ Spaced tokens s.toList := by
  constructor
  · rintro rfl
    obtain ⟨tokens, h⟩ := exists_spaced s.toList
    have hw : words s = tokens := h.runs_eq
    exact hw ▸ h
  · exact Spaced.runs_eq

/-! ## Words with single spaces between them -/

section Joined

/-- The tokens are not empty and hold no blank. -/
def AreTokens (tokens : List String) : Prop :=
  ∀ t ∈ tokens, t ≠ "" ∧ ∀ c ∈ t.toList, isBlank c = false

theorem toList_intercalate_cons_cons (t u : String) (rest : List String) :
    (String.intercalate " " (t :: u :: rest)).toList =
      t.toList ++ ' ' :: (String.intercalate " " (u :: rest)).toList := by
  rw [String.intercalate_cons_cons, String.toList_append, String.toList_append, List.append_assoc]
  rfl

theorem spaced_intercalate : ∀ {tokens : List String}, AreTokens tokens →
    Spaced tokens (String.intercalate " " tokens).toList
  | [], _ => by simpa using Spaced.nil
  | [t], h => by
    obtain ⟨hne, hb⟩ := h t List.mem_cons_self
    simpa using Spaced.nil.token hne hb (by simp)
  | t :: u :: rest, h => by
    obtain ⟨⟨hne, hb⟩, hrest⟩ := List.forall_mem_cons.mp h
    rw [toList_intercalate_cons_cons]
    exact .token hne hb (by simp [isBlank]) (.blank (by decide) (spaced_intercalate hrest))

/-- **Tokens with single spaces between them are read back.** -/
theorem words_intercalate {tokens : List String} (h : AreTokens tokens) :
    words (String.intercalate " " tokens) = tokens :=
  words_eq_iff.mpr (spaced_intercalate h)

theorem head_intercalate : ∀ {tokens : List String}, AreTokens tokens →
    ∀ c ∈ (String.intercalate " " tokens).toList.head?, isBlank c = false
  | [], _ => by simp
  | [t], h => by
    intro c hc
    exact (h t List.mem_cons_self).2 c (List.mem_of_mem_head? (by simpa using hc))
  | t :: u :: rest, h => by
    obtain ⟨hne, hb⟩ := h t List.mem_cons_self
    have hl : t.toList ≠ [] := by simpa using hne
    rw [toList_intercalate_cons_cons, List.head?_append_of_ne_nil _ hl]
    exact fun c hc => hb c (List.mem_of_mem_head? hc)

theorem last_intercalate : ∀ {tokens : List String}, AreTokens tokens →
    ∀ c ∈ (String.intercalate " " tokens).toList.getLast?, isBlank c = false
  | [], _ => by simp
  | [t], h => by
    intro c hc
    exact (h t List.mem_cons_self).2 c (List.mem_of_mem_getLast? (by simpa using hc))
  | t :: u :: rest, h => by
    obtain ⟨-, hrest⟩ := List.forall_mem_cons.mp h
    have hne : (String.intercalate " " (u :: rest)).toList ≠ [] := by
      intro e
      have hnil := (spaced_intercalate hrest).runs_eq
      rw [e] at hnil
      cases hnil
    rw [toList_intercalate_cons_cons, List.getLast?_append_of_ne_nil _ (by simp),
      List.getLast?_cons_of_ne_nil hne]
    exact last_intercalate hrest

theorem trim_intercalate {tokens : List String} (h : AreTokens tokens) :
    trim (String.intercalate " " tokens) = String.intercalate " " tokens := by
  rw [trim, trimChars_eq_self_iff.mpr ⟨head_intercalate h, last_intercalate h⟩,
    String.ofList_toList]

/-- No two blanks stand side by side. -/
def BlanksApart (cs : List Char) : Prop := cs.IsChain fun a b => isBlank a = true → isBlank b = false

theorem blanksApart_of_plain {cs : List Char} (h : ∀ c ∈ cs, isBlank c = false) : BlanksApart cs := by
  have hp : cs.Pairwise fun a b => isBlank a = true → isBlank b = false :=
    List.pairwise_of_forall_mem_list fun _ _ b hb _ => h b hb
  exact hp.isChain

theorem blanksApart_intercalate : ∀ {tokens : List String}, AreTokens tokens →
    BlanksApart (String.intercalate " " tokens).toList
  | [], _ => blanksApart_of_plain (by simp)
  | [t], h => by
    rw [String.intercalate_singleton]
    exact blanksApart_of_plain (h t List.mem_cons_self).2
  | t :: u :: rest, h => by
    obtain ⟨⟨-, hb⟩, hrest⟩ := List.forall_mem_cons.mp h
    rw [toList_intercalate_cons_cons, BlanksApart, List.isChain_append]
    refine ⟨blanksApart_of_plain hb, List.isChain_cons.mpr
      ⟨fun b hm _ => head_intercalate hrest b hm, blanksApart_intercalate hrest⟩, fun a ha b _ hblank => ?_⟩
    -- The space behind the token is blank, its last character is not.
    rw [hb a (List.mem_of_mem_getLast? ha)] at hblank
    cases hblank

end Joined

/-! ## Pieces between commas -/

theorem commaPieces_of_plain {s : String} (hne : s ≠ "")
    (h : ∀ c ∈ s.toList, c ≠ ',' ∧ isBlank c = false) : commaPieces s = [s] := by
  have hsplit : s.toList.splitOnP (· == ',') = [s.toList] :=
    List.splitOnP_eq_singleton fun c hc => beq_eq_false_iff_ne.mpr (h c hc).1
  have htrim : trimChars s.toList = s.toList := trimChars_eq_self fun c hc => (h c hc).2
  have hl : s.toList.isEmpty = false := by simpa using hne
  rw [commaPieces, hsplit, List.map_singleton, htrim, List.filter_cons_of_pos (by simp [hl])]
  simp

theorem mem_splitOnP {α : Type} {p : α → Bool} {xs piece : List α} (h : piece ∈ xs.splitOnP p) :
    ∀ x ∈ piece, x ∈ xs ∧ p x = false := by
  induction xs generalizing piece with
  | nil =>
    rw [List.mem_singleton.mp h]
    exact List.forall_mem_nil _
  | cons x xs ih =>
    have hmem : ∀ {y}, y ∈ xs ∧ p y = false → y ∈ x :: xs ∧ p y = false :=
      fun h => ⟨List.mem_cons_of_mem _ h.1, h.2⟩
    rw [List.splitOnP_cons_eq_if_modifyHead] at h
    by_cases hx : p x = true
    · rw [if_pos hx] at h
      rcases List.mem_cons.mp h with rfl | h
      · exact List.forall_mem_nil _
      · exact fun y hy => hmem (ih h y hy)
    · obtain ⟨first, pieces, hs⟩ := List.exists_cons_of_ne_nil (List.splitOnP_ne_nil p xs)
      rw [if_neg hx, hs, List.modifyHead_cons] at h
      rcases List.mem_cons.mp h with rfl | h
      · exact List.forall_mem_cons.mpr ⟨⟨List.mem_cons_self, by simpa using hx⟩,
          fun y hy => hmem (ih (hs ▸ List.mem_cons_self) y hy)⟩
      · exact fun y hy => hmem (ih (hs ▸ List.mem_cons_of_mem _ h) y hy)

theorem mem_commaPieces {s piece : String} (h : piece ∈ commaPieces s) :
    ∀ c ∈ piece.toList, c ∈ s.toList ∧ c ≠ ',' := by
  simp only [commaPieces, List.mem_map, List.mem_filter] at h
  obtain ⟨_, ⟨⟨cs, hcs, rfl⟩, -⟩, rfl⟩ := h
  intro c hc
  rw [String.toList_ofList] at hc
  have := mem_splitOnP hcs c (mem_of_mem_trimChars hc)
  exact ⟨this.1, by simpa using this.2⟩

/-- The text lists the items: they are what stands between its commas, less the empty parts. -/
def Lists (s : String) (items : List String) : Prop :=
  ∃ parts : List String, String.intercalate "," parts = s ∧ (∀ part ∈ parts, ',' ∉ part.toList) ∧
    items = parts.filter (· ≠ "")

theorem exists_parts (s : String) :
    ∃ parts : List String, String.intercalate "," parts = s ∧ ∀ part ∈ parts, ',' ∉ part.toList := by
  have hid : String.toList ∘ String.ofList = id := funext fun _ => String.toList_ofList
  refine ⟨(s.toList.splitOn ',').map .ofList, ?_, fun part hpart hcomma => ?_⟩
  · rw [← String.toList_inj, String.toList_intercalate, List.map_map, hid, List.map_id]
    exact List.intercalate_splitOn ','
  · obtain ⟨cs, hcs, rfl⟩ := List.mem_map.mp hpart
    rw [String.toList_ofList] at hcomma
    simpa using (mem_splitOnP hcs ',' hcomma).2

/-- Parts of a text without blanks are trimmed as they stand. -/
theorem commaPieces_of_parts {s : String} (hb : ∀ c ∈ s.toList, isBlank c = false)
    {parts : List String} (hs : String.intercalate "," parts = s)
    (hc : ∀ part ∈ parts, ',' ∉ part.toList) : commaPieces s = parts.filter (· ≠ "") := by
  have htrim : (s.toList.splitOn ',').map trimChars = s.toList.splitOn ',' := by
    refine (List.map_congr_left (g := id) fun cs hcs => ?_).trans (List.map_id _)
    exact trimChars_eq_self fun c h => hb c (mem_splitOnP hcs c h).1
  have hpieces : commaPieces s = ((s.toList.splitOn ',').filter (!·.isEmpty)).map .ofList :=
    congrArg (fun pieces => (pieces.filter (!·.isEmpty)).map String.ofList) htrim
  rcases parts with _ | ⟨part, parts⟩
  · subst hs
    rfl
  have hsplit : s.toList.splitOn ',' = (part :: parts).map String.toList := by
    rw [← hs, String.toList_intercalate]
    exact List.splitOn_intercalate ',' (List.forall_mem_map.mpr hc) (by simp)
  have hid : String.ofList ∘ String.toList = id := funext fun _ => String.ofList_toList
  rw [hpieces, hsplit, List.filter_map, List.map_map, hid, List.map_id]
  exact List.filter_congr fun p _ => by by_cases h : p = "" <;> simp [h]

/-- **The pieces of a text without blanks are the items that it lists.** -/
theorem commaPieces_eq_iff {s : String} (hb : ∀ c ∈ s.toList, isBlank c = false) {items : List String} :
    commaPieces s = items ↔ Lists s items := by
  constructor
  · rintro rfl
    obtain ⟨parts, rfl, hc⟩ := exists_parts s
    exact ⟨parts, rfl, hc, commaPieces_of_parts hb rfl hc⟩
  · rintro ⟨parts, hs, hc, rfl⟩
    exact commaPieces_of_parts hb hs hc

end DocSearch.Text
