import Mathlib
import DocSearch.Proofs.Http.Path
import DocSearch.Proofs.Text.Words
import DocSearch.Service.Route
/-!
# Addresses put together as text

* **`parse?_append`**: what is read of a text behind the address of a directory.
* `reached_eq_self_iff`: when all of that text belongs to the path.
* **`intact_of_load`**: a text whose bytes all arrive has lost nothing on the way.
* **`path_ofText_target`**: a server sees the path of an address as it stands.
-/

namespace DocSearch.Address

open Percent (encode codes takeWhile_append_stop dropWhile_append_stop rdropWhile_append_stop)

/-! ## What is read of a text -/

/-- The character is dropped at both ends of an address. -/
def isBlank (c : Char) : Bool := c.toNat ≤ 0x20

/-- The character is kept inside an address. -/
def isKept (c : Char) : Bool := !(c = '\t' || c = '\n' || c = '\r')

/-- What is taken for the path of a text at the end of an address. -/
def reached (cs : List Char) : List Char :=
  (((cs.rdropWhile isBlank).filter isKept).takeWhile (· ≠ '#')).takeWhile (· ≠ '?')

theorem tidy_append (b rest : List Char) : tidy (b ++ '/' :: rest) =
    (b.dropWhile isBlank).filter isKept ++ '/' :: (rest.rdropWhile isBlank).filter isKept := by
  have h : tidy (b ++ '/' :: rest) =
      (((b ++ '/' :: rest).dropWhile isBlank).rdropWhile isBlank).filter isKept := rfl
  rw [h, dropWhile_append_stop (by decide), rdropWhile_append_stop (by decide), List.filter_append,
    List.filter_cons_of_pos (by decide)]

theorem scheme?_colon {name : List Char} (h : ':' ∉ name) (rest : List Char) :
    scheme? (name ++ ':' :: rest) =
      (scheme? (name ++ [':'])).map fun s => (s.1, rest.dropWhile isSlash) := by
  unfold scheme?
  rw [Percent.splitAt_append h, Percent.splitAt_append h]
  simp only
  generalize String.ofList (name.map Char.toLower) = n
  split <;> rfl

theorem scheme?_of_not_mem {cs : List Char} (h : ':' ∉ cs) (hslash : '/' ∈ cs) :
    scheme? cs = none := by
  have hmem : '/' ∈ cs.map Char.toLower := List.mem_map.mpr ⟨'/', hslash, by decide⟩
  have hne : ∀ s : String, '/' ∉ s.toList → String.ofList (cs.map Char.toLower) ≠ s := by
    rintro s hs rfl
    rw [String.toList_ofList] at hs
    exact hs hmem
  unfold scheme?
  rw [Percent.splitAt_of_not_mem h]
  simp only
  split
  · next heq => exact absurd heq (hne _ (by decide))
  · next heq => exact absurd heq (hne _ (by decide))
  · rfl

/-- The character does not end the name of a host. -/
def inHost (c : Char) : Bool := !(c = '/' || c = '\\' || c = '?' || c = '#')

/-- Reads what stands behind a scheme. -/
def behind? (secure : Bool) (cs : List Char) : Option Address :=
  let host := cs.takeWhile inHost
  let rest := (cs.dropWhile inHost).takeWhile (· ≠ '#')
  if host.isEmpty then none
  else some ⟨secure, .ofList host, segments (rest.takeWhile (· ≠ '?')),
    (rest.dropWhile (· ≠ '?')).tail?.map (encode inQuerySet)⟩

theorem parse?_eq (s : String) :
    parse? s = (scheme? (tidy s.toList)).bind fun p => behind? p.1 p.2 := rfl

/-- The segments between a host and the last slash. -/
def directories : List Char → List (List Char)
  | [] => []
  | _ :: cs => cs.splitOnP isSlash

theorem segments_append (cs rest : List Char) : segments (cs ++ '/' :: rest) =
    follow ((directories cs).foldl level []) (rest.splitOnP isSlash) := by
  match cs with
  | [] => rfl
  | c :: cs =>
    have h : segments (c :: cs ++ '/' :: rest) =
        follow [] ((cs ++ '/' :: rest).splitOnP isSlash) := rfl
    rw [h, List.splitOnP_append_cons _ _ (by decide),
      follow_append (List.splitOnP_ne_nil _ _), directories]

theorem behind?_append {cs : List Char} (hq : '?' ∉ cs) (hh : '#' ∉ cs) (secure : Bool)
    (rest : List Char) : (behind? secure (cs ++ '/' :: rest)).map path =
      if (cs.takeWhile inHost).isEmpty then none
      else some (follow ((directories (cs.dropWhile inHost)).foldl level [])
        (((rest.takeWhile (· ≠ '#')).takeWhile (· ≠ '?')).splitOnP isSlash)) := by
  have hstop : inHost '/' = false := by decide
  have htake : ∀ {c : Char} (r : List Char), c ≠ '/' → c ∉ cs →
      (cs.dropWhile inHost ++ '/' :: r).takeWhile (· ≠ c) =
        cs.dropWhile inHost ++ '/' :: r.takeWhile (· ≠ c) := by
    intro c r hc hcs
    have hd : c ∉ cs.dropWhile inHost := fun h => hcs ((List.dropWhile_sublist _).subset h)
    rw [List.takeWhile_append_of_pos (Percent.forall_ne_of_not_mem hd),
      List.takeWhile_cons_of_pos (by simpa using hc.symm)]
  unfold behind?
  simp only
  rw [takeWhile_append_stop hstop, dropWhile_append_stop hstop, htake _ (by decide) hh,
    htake _ (by decide) hq, segments_append, apply_ite (Option.map path)]
  rfl

theorem scheme?_append {cs : List Char} {a : Address}
    (h : ((scheme? (cs ++ ['/'])).bind fun p => behind? p.1 p.2) = some a) :
    ∃ secure server, server <:+ cs ∧
      ∀ rest, scheme? (cs ++ '/' :: rest) = some (secure, server ++ '/' :: rest) := by
  have hcolon : ':' ∈ cs := by
    by_contra hc
    rw [scheme?_of_not_mem (by simp [hc]) (by simp)] at h
    cases h
  obtain ⟨name, u, rfl, hname⟩ := List.eq_append_cons_of_mem hcolon
  have hscheme : ∀ rest, scheme? (name ++ ':' :: u ++ '/' :: rest) =
      (scheme? (name ++ [':'])).map fun s => (s.1, (u ++ '/' :: rest).dropWhile isSlash) := by
    intro rest
    rw [List.append_assoc, List.cons_append, scheme?_colon hname]
  rw [hscheme] at h
  cases hs : scheme? (name ++ [':']) with
  | none => rw [hs] at h; cases h
  | some s =>
    rw [hs, Option.map_some, Option.bind_some] at h
    -- Slashes alone leave no room for a host.
    have hu : u.dropWhile isSlash ≠ [] := by
      intro hu
      rw [List.dropWhile_append, hu] at h
      cases h
    refine ⟨s.1, u.dropWhile isSlash, ?_, fun rest => ?_⟩
    · exact (List.dropWhile_suffix _).trans ⟨name ++ [':'], by simp⟩
    · rw [hscheme, hs, Option.map_some, List.dropWhile_append, if_neg (by simpa using hu)]

/-- **A text behind the address of a directory leads on from the levels of the directory.** -/
theorem parse?_append {b : List Char} {a : Address} (hq : '?' ∉ b) (hh : '#' ∉ b)
    (h : parse? (.ofList (b ++ ['/'])) = some a) :
    ∃ up : List (List Char), a.path = up.reverse ++ [[]] ∧
      ∀ rest, (parse? (.ofList (b ++ '/' :: rest))).map path =
        some (follow up ((reached rest).splitOnP isSlash)) := by
  have hparse : ∀ rest, parse? (.ofList (b ++ '/' :: rest)) =
      (scheme? ((b.dropWhile isBlank).filter isKept ++
        '/' :: (rest.rdropWhile isBlank).filter isKept)).bind fun p => behind? p.1 p.2 := by
    intro rest
    rw [parse?_eq, String.toList_ofList, tidy_append]
  obtain ⟨secure, server, hserver, hscheme⟩ := scheme?_append ((hparse []).symm.trans h)
  have hmem : ∀ {c}, c ∉ b → c ∉ server := fun hc hm =>
    hc ((List.dropWhile_sublist _).subset (List.mem_of_mem_filter (hserver.subset hm)))
  have hpath : ∀ rest, (parse? (.ofList (b ++ '/' :: rest))).map path =
      if (server.takeWhile inHost).isEmpty then none
      else some (follow ((directories (server.dropWhile inHost)).foldl level [])
        ((reached rest).splitOnP isSlash)) := by
    intro rest
    rw [hparse, hscheme, Option.bind_some, behind?_append (hmem hq) (hmem hh)]
    rfl
  have hhost : ¬(server.takeWhile inHost).isEmpty = true := by
    intro he
    have := hpath []
    rw [h, if_pos he] at this
    cases this
  refine ⟨(directories (server.dropWhile inHost)).foldl level [], ?_, fun rest => ?_⟩
  · have := hpath []
    rw [h, if_neg hhost, Option.map_some, Option.some_inj] at this
    rw [this]
    exact follow_of_steady (by decide) _
  · rw [hpath, if_neg hhost]

theorem reached_sublist (cs : List Char) : (reached cs).Sublist cs := by
  unfold reached
  exact (((List.takeWhile_sublist _).trans (List.takeWhile_sublist _)).trans
    List.filter_sublist).trans (List.rdropWhile_prefix _ _).sublist

theorem reached_eq_self_iff {cs : List Char} : reached cs = cs ↔
    (∀ c ∈ cs, isKept c = true ∧ c ≠ '#' ∧ c ≠ '?') ∧ ∀ c ∈ cs.getLast?, 0x20 < c.toNat := by
  have hlast : cs.rdropWhile isBlank = cs ↔ ∀ c ∈ cs.getLast?, 0x20 < c.toNat := by
    rw [List.rdropWhile_eq_self_iff]
    constructor
    · intro h c hc
      obtain ⟨hne, rfl⟩ := List.mem_getLast?_eq_getLast hc
      simpa [isBlank] using h hne
    · intro h hne
      simpa [isBlank] using h _ (List.getLast?_eq_some_getLast hne)
  have hall : (∀ c ∈ cs, isKept c = true ∧ c ≠ '#' ∧ c ≠ '?') ↔ cs.filter isKept = cs ∧
      cs.takeWhile (· ≠ '#') = cs ∧ cs.takeWhile (· ≠ '?') = cs := by
    simp only [List.filter_eq_self, List.takeWhile_eq_self_iff, decide_eq_true_eq, forall_and]
  rw [hall, ← hlast]
  constructor
  · -- No stage can take anything away, as none can give it back.
    intro h
    have h₁ := List.takeWhile_sublist (fun c => decide (c ≠ '?')) (l :=
      ((cs.rdropWhile isBlank).filter isKept).takeWhile (· ≠ '#'))
    have h₂ := List.takeWhile_sublist (fun c => decide (c ≠ '#')) (l :=
      (cs.rdropWhile isBlank).filter isKept)
    have h₃ := List.filter_sublist (p := isKept) (l := cs.rdropWhile isBlank)
    have h₄ := (List.rdropWhile_prefix isBlank cs).sublist
    change (reached cs).Sublist _ at h₁
    rw [h] at h₁
    have e₄ := h₄.antisymm ((h₁.trans h₂).trans h₃)
    rw [e₄] at h₁ h₂ h₃
    have e₃ := h₃.antisymm (h₁.trans h₂)
    rw [e₃] at h₁ h₂
    have e₂ := h₂.antisymm h₁
    refine ⟨⟨e₃, e₂, ?_⟩, e₄⟩
    rw [reached, e₄, e₃, e₂] at h
    exact h
  · rintro ⟨⟨hk, hh, hq⟩, hl⟩
    rw [reached, hl, hk, hh, hq]

/-- **A text whose bytes all arrive has lost nothing on the way**: it has no codes and no dots, and
all of it belongs to the path. -/
theorem intact_of_load {up : List (List Char)} {cs : List Char}
    (h : load up + (1 + (cs.flatMap String.utf8EncodeChar).length) ≤
      load (follow up ((reached cs).splitOnP isSlash))) :
    reached cs = cs ∧ ∀ seg ∈ cs.splitOnP isSlash, codes seg = 0 ∧ isDots seg = false := by
  have hfollow := load_follow_le ((reached cs).splitOnP isSlash) up
  have hsplit := load_splitOnP (reached cs)
  have hsub := reached_sublist cs
  have hle := (hsub.flatMap String.utf8EncodeChar).length_le
  have hreached := Text.eq_of_sublist_of_length hsub (by omega)
  rw [hreached] at h hfollow hsplit
  have hcodes : ((cs.splitOnP isSlash).map codes).sum = 0 := by omega
  refine ⟨hreached, fun seg hm => ⟨?_, ?_⟩⟩
  · exact List.sum_eq_zero_iff.mp hcodes _ (List.mem_map_of_mem hm)
  · by_contra hd
    have hlt := load_follow_lt hm (by simpa using hd) up
    omega

/-! ## What a server sees -/

theorem behind?_eq_some {secure : Bool} {cs : List Char} {a : Address}
    (h : behind? secure cs = some a) :
    ∃ cs, ∃ query : Option (List Char),
      a.path = segments cs ∧ a.query = query.map (encode inQuerySet) := by
  unfold behind? at h
  simp only at h
  split_ifs at h
  cases h
  exact ⟨_, _, rfl, rfl⟩

theorem parse?_eq_some {s : String} {a : Address} (h : parse? s = some a) :
    ∃ cs, ∃ query : Option (List Char),
      a.path = segments cs ∧ a.query = query.map (encode inQuerySet) := by
  rw [parse?_eq, Option.bind_eq_some_iff] at h
  obtain ⟨p, -, hp⟩ := h
  exact behind?_eq_some hp

theorem segments_ne_nil (cs : List Char) : segments cs ≠ [] := by
  have hlast : ∀ (up : List (List Char)) seg, follow up [seg] ≠ [] := by
    intro up seg
    rw [follow_eq, List.foldl_cons, List.foldl_nil, List.getLast?_singleton, Option.any_some]
    by_cases hd : isDots seg = true
    · simp [hd]
    · simp [level_of_steady (by simpa using hd)]
  change follow [] ((cs.drop 1).splitOnP isSlash) ≠ []
  rw [← List.dropLast_append_getLast (List.splitOnP_ne_nil isSlash (cs.drop 1)),
    follow_append (List.cons_ne_nil _ _)]
  exact hlast _ _

theorem not_mem_encode {p : Char → Bool} {c : Char} {cs : List Char} (hp : p c = true ∨ c ∉ cs)
    (hc : c ≠ '%') (hx : Percent.hexValue? c = none) : c ∉ encode p cs := by
  intro h
  rcases Percent.mem_encode h with ⟨hm, hpc⟩ | rfl | ⟨n, hn⟩
  · rcases hp with hp | hp
    · rw [hp] at hpc; cases hpc
    · exact hp hm
  · exact hc rfl
  · rw [hx] at hn; cases hn

theorem mem_segments {cs seg : List Char} (h : seg ∈ segments cs) :
    '/' ∉ seg ∧ '?' ∉ seg ∧ '#' ∉ seg := by
  unfold segments at h
  rw [follow_eq, List.mem_append, List.mem_reverse] at h
  rcases h with h | h
  · rcases mem_foldl_level h with h | ⟨s, hs, rfl⟩
    · cases h
    · have hslash : '/' ∉ s := fun hm => absurd (Text.mem_splitOnP hs _ hm).2 (by decide)
      exact ⟨not_mem_encode (.inr hslash) (by decide) (by decide),
        not_mem_encode (.inl (by decide)) (by decide) (by decide),
        not_mem_encode (.inl (by decide)) (by decide) (by decide)⟩
  · split_ifs at h
    · rw [List.mem_singleton.mp h]
      simp
    · cases h

theorem splitOnP_flatMap {segs : List (List Char)} (h : ∀ seg ∈ segs, '/' ∉ seg)
    (first : List Char) (hf : '/' ∉ first) :
    (first ++ segs.flatMap ('/' :: ·)).splitOnP (· == '/') = first :: segs := by
  have hne : ∀ cs : List Char, '/' ∉ cs → ∀ c ∈ cs, (c == '/') = false := by
    intro cs hcs c hc
    simpa using fun he : c = '/' => hcs (he ▸ hc)
  induction segs generalizing first with
  | nil => rw [List.flatMap_nil, List.append_nil, List.splitOnP_eq_singleton (hne first hf)]
  | cons seg segs ih =>
    rw [List.forall_mem_cons] at h
    rw [List.flatMap_cons, List.cons_append,
      List.splitOnP_append_cons_of_forall_mem (hne first hf) '/' (by simp), ih h.2 seg h.1]

/-- **A server sees the path of an address as it stands.** -/
theorem path_ofText_target {s : String} {a : Address} (h : parse? s = some a) :
    (RequestTarget.ofText a.target).path = a.path.map String.ofList := by
  obtain ⟨cs, query, hp, hquery⟩ := parse?_eq_some h
  have hmem : ∀ {seg}, seg ∈ a.path → '/' ∉ seg ∧ '?' ∉ seg ∧ '#' ∉ seg := by
    rw [hp]
    exact mem_segments
  have hnot : ∀ {c}, c ≠ '/' → (∀ seg ∈ a.path, c ∉ seg) → c ∉ a.pathText := by
    intro c hc hsegs hm
    obtain ⟨seg, hs, hm⟩ := List.mem_flatMap.mp hm
    rcases List.mem_cons.mp hm with he | hm
    · exact hc he
    · exact hsegs seg hs hm
  have hhash : '#' ∉ a.pathText := hnot (by decide) fun seg hs => (hmem hs).2.2
  have hmark : '?' ∉ a.pathText := hnot (by decide) fun seg hs => (hmem hs).2.1
  have hread : ∀ text, '#' ∉ text → (RequestTarget.ofText (.ofList text)).path =
      RequestTarget.segments (Percent.splitAt '?' text).1 := by
    intro text ht
    rw [RequestTarget.ofText, String.toList_ofList,
      List.takeWhile_eq_self_iff.mpr (Percent.forall_ne_of_not_mem ht)]
  have hpath : (RequestTarget.ofText a.target).path = RequestTarget.segments a.pathText := by
    unfold target
    rw [hquery]
    cases query with
    | none => rw [hread _ (by simpa using hhash), Option.map_none, List.append_nil,
        Percent.splitAt_of_not_mem hmark]
    | some q =>
      have hq : '#' ∉ encode inQuerySet q :=
        not_mem_encode (.inl (by decide)) (by decide) (by decide)
      rw [Option.map_some, hread _ (by simp [hhash, hq]), Percent.splitAt_append hmark]
  obtain ⟨first, segs, he⟩ := List.exists_cons_of_ne_nil (hp ▸ segments_ne_nil cs)
  rw [hpath, pathText, he, List.flatMap_cons, List.cons_append, RequestTarget.segments,
    splitOnP_flatMap]
  · intro seg hs
    exact (hmem (he ▸ List.mem_cons_of_mem _ hs)).1
  · exact (hmem (he ▸ List.mem_cons_self)).1

end DocSearch.Address
