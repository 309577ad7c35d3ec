import Mathlib
import DocSearch.Proofs.Json.Same
import DocSearch.Proofs.Request.Compile
import DocSearch.Proofs.Service.Call
/-!
# Requests about a single file

The id of the file is one more part of the query, so it is trimmed, and left out when it is blank.

* `Query.file_matches_iff`: what a request for one file asks for.
* `Query.file_only_iff`: the ids that such a request is held to.
* `ReturnsMatches`: a backend that returns what it is asked for.
* **`about_one_file`**: what the service shows belongs to the file of the trimmed id, and to the file of
  the id itself exactly when nothing is trimmed.
-/

namespace DocSearch

variable {M : Matching} {d : Document}

/-! ## Requests -/

namespace Query

theorem must_file (q : Query) (scope : Option Clause) (id : String) :
    q.must scope (some id) =
      (clauseOf? (some id) fun id => .term "file_id" (.str id)).toList ++ q.must scope none := by
  simp [must, clauseOf?, List.append_assoc]

/-- **The hits of a request for one file** are those of the query that have the trimmed id, if
anything is left of it. -/
theorem file_matches_iff {q : Query} {id : String} {mode : HighlightMode} :
    (q.file id mode).Matches M d ↔
      (Text.trim id ≠ "" → d.field "file_id" = some (.str (Text.trim id))) ∧
        (q.page 0 1 .fullDocument).Matches M d := by
  have hfile : (q.file id mode).Matches M d ↔ ∀ c ∈ q.must none (some id), c.Holds M d := by
    simp [file, paged, SearchRequest.Matches, Clause.holds_bool]
  rw [hfile, matches_page_iff_must, must_file, List.forall_mem_append, holds_clauseOf?]
  simp [Clause.Holds, HighlightMode.scope]

end Query

/-- A document of which no more is known than its id. -/
def bareFile (id : String) : Document :=
  .mk (fun f => if f = "file_id" then some (.str id)
    else if f = "content.state" then some (.str "processed") else none) fun _ => []

namespace Query

theorem page_matches_bareFile (M : Matching) (id : String) :
    (({} : Query).page 0 1 .fullDocument).Matches M (bareFile id) := by
  have hmust : ({} : Query).must none none = [.term "content.state" (.str "processed")] := rfl
  have hstate : (bareFile id).field "content.state" = some (.str "processed") := rfl
  rw [matches_page_iff_must, HighlightMode.scope, hmust, List.forall_mem_singleton, Clause.Holds]
  exact hstate

theorem file_only_iff (id : String) :
    (∀ M q mode d, (file q id mode).Matches M d → d.field "file_id" = some (.str id)) ↔
      id ≠ "" ∧ Text.trim id = id := by
  constructor
  · intro h
    have hbare : ∀ name, (Text.trim id ≠ "" → name = Text.trim id) → name = id := by
      intro name hname
      have hd : (bareFile name).field "file_id" = some (.str name) := rfl
      have hm : (file {} id .fullDocument).Matches plainMatching (bareFile name) :=
        file_matches_iff.mpr ⟨fun ht => by rw [hd, hname ht], page_matches_bareFile _ name⟩
      simpa [hd] using h _ _ _ _ hm
    by_cases ht : Text.trim id = ""
    -- Without a clause for the id any other file will do.
    · have hlonger := hbare (id ++ "x") fun hne => absurd ht hne
      simp at hlonger
    · have htrim : Text.trim id = id := hbare _ fun _ => rfl
      exact ⟨htrim ▸ ht, htrim⟩
  · rintro ⟨hne, htrim⟩ M q mode d h
    have hid := (file_matches_iff.mp h).1
    rw [htrim] at hid
    exact hid hne

end Query

/-! ## The service -/

namespace Service

/-- Every hit is a document that the request describes, under its id. -/
def ReturnsMatches (M : Matching) (backend : (n : Nat) → (c : BackendCall) → c.Reply) : Prop :=
  ∀ n r a, backend n (.search r) = .ok a → ∀ hit ∈ a.hits,
    ∃ d : Document, r.Matches M d ∧ d.field "file_id" = some (.str hit.fileId)

/-- A hit that the backend returns at some time. -/
def Returns (backend : (n : Nat) → (c : BackendCall) → c.Reply) (hit : FileHit) : Prop :=
  ∃ n r a, backend n (.search r) = .ok a ∧ hit ∈ a.hits

variable {w w' : ServiceWorld}

theorem fileId_of_hitIn {file : String} {p : SearchParams} {mode : HighlightMode} {hit : FileHit}
    (hb : ReturnsMatches M w.backend) (ht : Text.trim file ≠ "")
    (h : (hitIn file p mode).on w = (.ok (some hit), w')) :
    Returns w.backend hit ∧ hit.fileId = Text.trim file := by
  obtain ⟨query, _, hquery, h⟩ := on_bind_eq_ok.mp h
  obtain ⟨-, rfl⟩ := on_check_eq_ok.mp hquery
  rw [on_bind_ok (on_now _)] at h
  obtain ⟨answer, _, hanswer, h⟩ := on_bind_eq_ok.mp h
  obtain ⟨hreply, rfl⟩ := on_ask_eq_ok.mp hanswer
  rw [on_pure, Prod.mk.injEq, Except.ok.injEq] at h
  have hmem : hit ∈ answer.hits := List.mem_of_head? h.1
  obtain ⟨d, hd, hid⟩ := hb _ _ answer hreply hit hmem
  refine ⟨⟨_, _, answer, hreply, hmem⟩, ?_⟩
  have hfile := (Query.file_matches_iff.mp hd).1 ht
  rw [hfile] at hid
  simpa using hid.symm

theorem wholeText_shows {file : String} {p : SearchParams} {j : Json}
    (hb : ReturnsMatches M w.backend) (ht : Text.trim file ≠ "")
    (h : (wholeText file p).on w = (.ok (.found j), w')) :
    ∃ hit, Returns w.backend hit ∧ hit.fileId = Text.trim file ∧ j = hit.toJson := by
  obtain ⟨hit?, _, hhit, h⟩ := on_bind_eq_ok.mp h
  cases hit? with
  | none => cases h
  | some hit =>
    obtain ⟨hreturned, hid⟩ := fileId_of_hitIn hb ht hhit
    rw [on_pure, Prod.mk.injEq, Except.ok.injEq] at h
    cases h.1
    exact ⟨hit, hreturned, hid, rfl⟩

theorem fragments_show {file : String} {p : SearchParams} {j : Json}
    (hb : ReturnsMatches M w.backend) (ht : Text.trim file ≠ "")
    (h : (fragments file p).on w = (.ok (.found j), w')) :
    ∃ found, j = .obj [("highlight", Fragments.toJson found)] ∧ (found = noFragments ∨
      ∃ hit, Returns w.backend hit ∧ hit.fileId = Text.trim file ∧
        hit.content.highlight = some found) := by
  obtain ⟨hit?, _, hhit, h⟩ := on_bind_eq_ok.mp h
  rw [on_pure, Prod.mk.injEq, Except.ok.injEq] at h
  cases h.1
  refine ⟨_, rfl, ?_⟩
  cases hit? with
  | none => exact .inl rfl
  | some hit =>
    obtain ⟨hreturned, hid⟩ := fileId_of_hitIn hb ht hhit
    cases hfound : hit.content.highlight with
    | none => exact .inl (by simp [hfound])
    | some found => exact .inr ⟨hit, hreturned, hid, by simp [hfound]⟩

/-- **What is shown of a single file is of the trimmed id.** A request for an id is about that file alone
exactly when the id is not empty and nothing is trimmed from it. A blank id asks for any file. -/
theorem about_one_file (id : String) :
    (∀ M q mode d, (Query.file q id mode).Matches M d ↔
      (Text.trim id ≠ "" → d.field "file_id" = some (.str (Text.trim id))) ∧
        (q.page 0 1 .fullDocument).Matches M d) ∧
    ((∀ M q mode d, (Query.file q id mode).Matches M d → d.field "file_id" = some (.str id)) ↔
      id ≠ "" ∧ Text.trim id = id) ∧
    (Text.trim id ≠ "" → ∀ s M w target j, ReturnsMatches M w.backend →
      (Service.respond s "GET" target w).1 = .found j →
      (operation? "GET" target = some (.wholeText id) →
        ∃ hit, Returns w.backend hit ∧ hit.fileId = Text.trim id ∧ j = hit.toJson) ∧
      (operation? "GET" target = some (.fragments id) →
        ∃ found, j = .obj [("highlight", Fragments.toJson found)] ∧ (found = noFragments ∨
          ∃ hit, Returns w.backend hit ∧ hit.fileId = Text.trim id ∧
            hit.content.highlight = some found))) := by
  refine ⟨fun M q mode d => Query.file_matches_iff, Query.file_only_iff id, ?_⟩
  intro ht s M w target j hb hj
  have hcall : ∀ {op}, operation? "GET" target = some op →
      (s.carryOut (RequestTarget.ofText target).query op).on w =
        (.ok (.found j), (respond s "GET" target w).2) := by
    intro op hop
    have hon := on_carryOut_of_status (by decide) hop (congrArg ServiceReply.status hj)
    rwa [hj] at hon
  constructor
  · intro hop
    obtain ⟨p, -, hp⟩ := on_searching_eq_ok (hcall hop) rfl
    exact wholeText_shows hb ht hp
  · intro hop
    obtain ⟨p, -, hp⟩ := on_searching_eq_ok (hcall hop) rfl
    exact fragments_show hb ht hp

/-- A blank can be asked for, and every processed file is a hit then. -/
theorem about_one_file_blank :
    operation? "GET" "/api/search/%20/full?query=tax" = some (.wholeText " ") ∧
      (Query.file {} " " .fullDocument).Matches plainMatching (bareFile "other") ∧
      (bareFile "other").field "file_id" ≠ some (.str " ") := by
  have hblank : Text.trim " " = "" := by decide
  have hmatches : (Query.file {} " " .fullDocument).Matches plainMatching (bareFile "other") :=
    Query.file_matches_iff.mpr ⟨fun h => absurd hblank h, Query.page_matches_bareFile _ _⟩
  exact ⟨by decide +kernel, hmatches, by simp [bareFile, Document.field]⟩

/-! ### A world with one file -/

deriving instance DecidableEq for ServiceReply

/-- A processed file that is not hidden. -/
def shownFile : Document :=
  .mk (fun name => [("file_id", .str "f1"), ("content.state", .str "processed"),
    ("hidden", .bool false)].lookup name) fun _ => []

/-- A clause about the values of fields that the file satisfies, or one about free text. -/
def meets : Clause → Bool
  | .term name value => shownFile.field name = some value
  | .bool [] [.simpleQuery _ _] [] (some 1) => true
  | _ => false

/-- What is returned of the file, with a place where something was found. -/
def shownHit : FileHit := { fileId := "f1", content := { highlight := some [("text", ["a tax"])] } }

/-- The hit, if the file meets all clauses of a request. -/
def hitsOf (r : SearchRequest) : List FileHit :=
  match r.query with
  | some (.bool must [] [] (some 0)) => if must.all meets then [shownHit] else []
  | _ => []

/-- A world in which searches find that file alone. -/
def oneFileWorld : ServiceWorld where
  backend
    | _, .search r => .ok { hits := hitsOf r }
    | _, .file _ => .ok none
    | _, .setHidden _ _ => .ok ()
  clock := ⟨0⟩

theorem holds_of_meets {c : Clause} (h : meets c = true) : c.Holds plainMatching shownFile := by
  unfold meets at h
  split at h
  · rw [Clause.Holds]
    exact of_decide_eq_true h
  · simp [Clause.Holds, Clause.AllHold, Clause.NoneHolds, Clause.AtLeast, Clause.leastOf,
      plainMatching]
  · cases h

theorem matches_of_mem_hitsOf {r : SearchRequest} {hit : FileHit} (h : hit ∈ hitsOf r) :
    r.Matches plainMatching shownFile ∧ hit = shownHit := by
  unfold hitsOf at h
  split at h
  · next must hq =>
    rw [List.mem_ite_nil_right, List.mem_singleton] at h
    obtain ⟨hall, rfl⟩ := h
    refine ⟨?_, rfl⟩
    rw [SearchRequest.Matches, hq]
    simpa [Clause.holds_bool] using fun c hc => holds_of_meets (List.all_eq_true.mp hall c hc)
  · cases h

theorem returnsMatches_oneFileWorld : ReturnsMatches plainMatching oneFileWorld.backend := by
  intro n r a h hit hhit
  obtain rfl : { hits := hitsOf r } = a := Except.ok.inj h
  obtain ⟨hmatches, rfl⟩ := matches_of_mem_hitsOf hhit
  exact ⟨shownFile, hmatches, rfl⟩

/-- The file is shown for its id with a blank in front, which is the id of no file: the whole of it, and
the place where something was found. -/
theorem about_one_file_padded :
    let s : Service := ⟨Codec.ofSecret "secret", 50⟩
    let found := [("text", ["a tax"])]
    Text.trim " f1" ≠ "" ∧ ReturnsMatches plainMatching oneFileWorld.backend ∧
    ((s.respond "GET" "/api/search/%20f1/full?query=tax" oneFileWorld).1 = .found shownHit.toJson ∧
      ∃ hit, Returns oneFileWorld.backend hit ∧ hit.fileId = "f1" ∧
        shownHit.toJson = hit.toJson) ∧
    (s.respond "GET" "/api/search/%20f1?query=tax" oneFileWorld).1 =
        .found (.obj [("highlight", Fragments.toJson found)]) ∧
      ∃ hit shown, Returns oneFileWorld.backend hit ∧ hit.fileId = "f1" ∧
        hit.content.highlight = some shown ∧ Fragments.toJson found = Fragments.toJson shown := by
  intro s found
  have htrim : Text.trim " f1" = "f1" := by decide
  have hne : Text.trim " f1" ≠ "" := by decide
  have hb := returnsMatches_oneFileWorld
  have habout := (about_one_file " f1").2.2 hne s plainMatching oneFileWorld
  rw [htrim] at habout
  have hwhole : (s.respond "GET" "/api/search/%20f1/full?query=tax" oneFileWorld).1 =
      .found shownHit.toJson := by decide +kernel
  have hpart : (s.respond "GET" "/api/search/%20f1?query=tax" oneFileWorld).1 =
      .found (.obj [("highlight", Fragments.toJson found)]) := by decide +kernel
  obtain ⟨found', heq, hshown⟩ := (habout _ _ hb hpart).2 (by decide +kernel)
  have hsame : Fragments.toJson found = Fragments.toJson found' := by simpa using heq
  refine ⟨hne, hb, ⟨hwhole, (habout _ _ hb hwhole).1 (by decide +kernel)⟩, hpart, ?_⟩
  obtain rfl | ⟨hit, hreturned, hid, hhighlight⟩ := hshown
  · exact absurd hsame (by decide)
  · exact ⟨hit, found', hreturned, hid, hhighlight, hsame⟩

end Service

end DocSearch
