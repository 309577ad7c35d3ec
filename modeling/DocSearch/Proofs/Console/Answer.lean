import Mathlib
import DocSearch.Console.Basic
import DocSearch.Proofs.Service.Call
import DocSearch.Proofs.Stats.Dashboard
import DocSearch.Proofs.Tag
/-!
# The console reads what the service answers

* `FoundFile.ofHit`, `TagRow.ofCount`: what the console shows of a file and of a tag. **`read_page`**,
  **`readAll_counts`**: it reads that from what the service writes.
* `Cache.Gives`: what holds of every result of a call of the tag cache; its counts are words.
* `SendsWords`: a backend whose sizes are words. `search_eq_ok`: what a search ends with.
* `Console.Reads`: what the console reads from the text of a value.
* **`success_read_back`**: the console reads every success without loss.
-/

namespace DocSearch

/-! ## Files -/

namespace FoundFile

/-- What the console shows of a file. -/
def ofHit (hit : FileHit) : FoundFile :=
  ⟨hit.fileId, hit.info.shortName, hit.info.fullName, hit.content.size, hit.tags.map (·.name)⟩

theorem readNames_reread (m : FileMeta) (room : Nat) :
    readNames (m.toJson.reread (room + 1)) = some (m.shortName, m.fullName) := by
  unfold FileMeta.toJson
  -- A download address may stand between the fields.
  generalize m.downloadUri.map Json.str = uri
  rw [readNames, record?_reread (by cases uri <;> rfl), Option.bind_eq_bind, Option.bind_some,
    required_reread (x := .str m.shortName) (by cases uri <;> rfl),
    required_reread (x := .str m.fullName) (by cases uri <;> rfl)]
  rfl

theorem readSize_reread {c : ContentInfo} (h : c.size < Text.wordBound) (room : Nat) :
    readSize (c.toJson.reread (room + 1)) = some c.size := by
  unfold ContentInfo.toJson
  generalize c.highlight.map Fragments.toJson = fragments
  rw [readSize, record?_reread (by cases fragments <;> rfl), Option.bind_eq_bind, Option.bind_some,
    defaulted_reread (x := .nat c.size) (by cases fragments <;> rfl)]
  exact Reader.word_reread h room

theorem readTag_reread (t : Tag) (room : Nat) :
    readTag (t.toJson.reread (room + 1)) = some t.name := by
  rw [readTag, Tag.toJson, record?_reread rfl, Option.bind_eq_bind, Option.bind_some,
    required_reread rfl]
  rfl

/-- **A file is read from what the service writes of it.** -/
theorem read_hit {hit : FileHit} (h : hit.content.size < Text.wordBound) (room : Nat) :
    read (hit.toJson.reread (room + 3)) = some (ofHit hit) := by
  have hnames := readNames_reread hit.info (room + 1)
  have hsize := readSize_reread h (room + 1)
  have htags := Reader.list_reread fun t (_ : t ∈ hit.tags) => readTag_reread t room
  unfold FileHit.toJson
  generalize hit.score.map Json.real = score
  rw [read, record?_reread (by cases score <;> rfl)]
  simp only [Option.bind_eq_bind, Option.bind_some]
  rw [required_reread (x := .str hit.fileId) (by cases score <;> rfl),
    required_reread (x := hit.info.toJson) (by cases score <;> rfl), hnames,
    required_reread (x := hit.content.toJson) (by cases score <;> rfl), hsize,
    defaulted_reread (x := .arr (hit.tags.map Tag.toJson)) (by cases score <;> rfl), htags]
  rfl

end FoundFile

/-- The value of a page of files. -/
def pageJson (hits : List FileHit) (took total : Nat) : Json :=
  .obj [("hits", .arr (hits.map FileHit.toJson)), ("took", .nat took), ("total", .nat total)]

/-- **A page of files is read from what the service writes of it.** -/
theorem FoundPage.read_page {hits : List FileHit} {took total : Nat}
    (hhits : ∀ hit ∈ hits, hit.content.size < Text.wordBound) (htook : took < Text.wordBound)
    (htotal : total < Text.wordBound) (room : Nat) :
    read ((pageJson hits took total).reread (room + 5)) =
      some ⟨total, took, hits.map FoundFile.ofHit⟩ := by
  have hlist := Reader.list_reread fun hit hm => FoundFile.read_hit (hhits hit hm) room
  rw [read, pageJson, record?_reread rfl, Option.bind_eq_bind, Option.bind_some, required_reread rfl,
    Reader.word_reread htotal]
  simp only [Option.bind_eq_bind, Option.bind_some]
  rw [required_reread rfl, Reader.word_reread htook, required_reread rfl, hlist]
  rfl

/-! ## Tags -/

namespace TagRow

/-- What the console shows of a tag. -/
def ofCount (c : TagCount) : TagRow := ⟨c.name, c.type.name, c.files⟩

theorem read_count {c : TagCount} (h : c.files < Text.wordBound) (room : Nat) :
    read (c.toJson.reread (room + 1)) = some (ofCount c) := by
  rw [read, TagCount.toJson, record?_reread rfl]
  simp only [Option.bind_eq_bind, Option.bind_some]
  rw [required_reread rfl, required_reread rfl, required_reread rfl, Reader.word_reread h]
  rfl

variable {counts : List TagCount}

/-- **The tags are read from what the service writes of them.** -/
theorem readAll_counts (h : ∀ c ∈ counts, c.files < Text.wordBound) (room : Nat) :
    readAll ((Service.countsJson counts).reread (room + 2)) = some (counts.map ofCount) :=
  Reader.list_reread fun c hc => read_count (h c hc) room

theorem readChanged_counts (h : ∀ c ∈ counts, c.files < Text.wordBound) (room : Nat) :
    readChanged ((Json.obj [("tags", Service.countsJson counts)]).reread (room + 3)) =
      some (counts.map ofCount) := by
  rw [readChanged, record?_reread rfl, Option.bind_eq_bind, Option.bind_some, required_reread rfl]
  exact readAll_counts h room

end TagRow

/-! ## Calls of the tag cache -/

namespace Cache

variable {α β : Type} {P : α → Prop} {Q : β → Prop}

/-- Every result of the call satisfies `P`. -/
def Gives (P : α → Prop) (c : Call α) : Prop := c.run.Always fun r => ∀ a, r = .ok a → P a

theorem Gives.perform {c : Call α} (hc : Gives P c) {w : CacheWorld} {a : α}
    (h : (Cache.perform c w).1 = .ok a) : P a :=
  Procedure.Always.run hc w a h

theorem gives_pure {a : α} (h : P a) : Gives P (pure a) := by
  rintro _ ⟨⟩
  exact h

theorem gives_bind {c : Call α} {f : α → Call β} (h : ∀ a, Gives Q (f a)) : Gives Q (c >>= f) := by
  have hc : c.run.Always fun _ => True := Procedure.always_of_forall (fun _ => trivial) c.run
  refine Procedure.Always.bind (f := ExceptT.bindCont f) hc fun r _ => ?_
  cases r with
  | ok a => exact h a
  | error e => exact nofun

/-- The numbers of files are words. -/
def Words (counts : List TagCount) : Prop := ∀ c ∈ counts, c.files < Text.wordBound

theorem words_countsOfRows (rows : List (String × String)) : Words (countsOfRows rows) := by
  intro c hc
  rw [countsOfRows, TagCount.mem_sort, List.mem_filterMap] at hc
  obtain ⟨row, -, hrow⟩ := hc
  exact (TagCount.ofRow?_eq_some_iff.mp hrow).bound.trans (by decide)

theorem gives_getTags : Gives Words getTags :=
  gives_bind fun _ => gives_bind fun rows => gives_pure (words_countsOfRows rows)

theorem gives_afterChange (change : TagChange) (tag : Tag) (delta : Int) :
    Gives Words (afterChange change tag delta) := by
  unfold afterChange
  split_ifs
  · exact gives_bind fun _ => gives_getTags
  · exact gives_getTags

theorem gives_addTag (file : String) (tag : Tag) : Gives Words (addTag file tag) :=
  gives_bind fun change => gives_afterChange change tag 1

theorem gives_removeTag (file : String) (tag : Tag) : Gives Words (removeTag file tag) :=
  gives_bind fun change => gives_afterChange change tag (-1)

end Cache

/-! ## Searches -/

namespace Service

variable {s : Service} {w w' : ServiceWorld}

/-- The sizes of the files that the backend returns are words. -/
def SendsWords (backend : (n : Nat) → (c : BackendCall) → c.Reply) : Prop :=
  ∀ n r a, backend n (.search r) = .ok a → ∀ hit ∈ a.hits, hit.content.size < Text.wordBound

theorem ofHit_withToken {hit hit' : FileHit} (h : (s.withToken hit).on w = (.ok hit', w')) :
    FoundFile.ofHit hit' = FoundFile.ofHit hit := by
  unfold withToken at h
  rw [on_bind_ok (on_freshNonce w)] at h
  split at h
  · rw [on_pure, Prod.mk.injEq, Except.ok.injEq] at h
    rw [← h.1]
    rfl
  · cases h

theorem ofHit_mapM_withToken {hits hits' : List FileHit}
    (h : (hits.mapM s.withToken : Call (List FileHit)).on w = (.ok hits', w')) :
    hits'.map FoundFile.ofHit = hits.map FoundFile.ofHit := by
  have hall := on_mapM_eq_ok h
  clear h
  induction hall with
  | nil => rfl
  | cons hfirst _ ih =>
    obtain ⟨v, v', hfirst⟩ := hfirst
    rw [List.map_cons, List.map_cons, ofHit_withToken hfirst, ih]

theorem mem_cut {page : Page} {first second : SearchAnswer} {hit : FileHit}
    (h : hit ∈ (page.cut first second).2) : hit ∈ first.hits ∨ hit ∈ second.hits := by
  have hranked : hit ∈ rankedHits first.hits second.hits :=
    List.mem_of_mem_drop (List.mem_of_mem_take h)
  rw [rankedHits, List.mem_mergeSort] at hranked
  exact List.mem_append.mp hranked

theorem search_eq_ok {p : SearchParams} {r : ServiceReply}
    (h : (s.search p).on w = (.ok r, w')) :
    ∃ page listing large hits, Page.parse p.page p.size = .ok page ∧
      w.backend w.calls.length (.search
        ((Query.parse w.clock (p.query.getD "")).page 0 page.depth .listing)) = .ok listing ∧
      w.backend (w.calls.length + 1) (.search
        ((Query.parse w.clock (p.query.getD "")).page 0 page.depth .largeFile)) = .ok large ∧
      hits.map FoundFile.ofHit = (page.cut listing large).2.map FoundFile.ofHit ∧
      r = .found (pageJson hits 0 (page.cut listing large).1) := by
  obtain ⟨page, _, hcheck, h⟩ := on_bind_eq_ok.mp h
  obtain ⟨hpage, rfl⟩ := on_check_eq_ok.mp hcheck
  rw [on_bind_ok (on_now w)] at h
  obtain ⟨listing, w₁, hask, h⟩ := on_bind_eq_ok.mp h
  obtain ⟨hlisting, hw₁⟩ := on_ask_eq_ok.mp hask
  obtain ⟨large, w₂, hask', h⟩ := on_bind_eq_ok.mp h
  obtain ⟨hlarge, -⟩ := on_ask_eq_ok.mp hask'
  rw [← hw₁, List.length_append, List.length_singleton] at hlarge
  obtain ⟨hits, w₃, hhits, h⟩ := on_bind_eq_ok.mp h
  have hclock : w₃.clock = w.clock :=
    (clock_of_on hhits).trans ((clock_of_on hask').trans (clock_of_on hask))
  rw [on_bind_ok (on_since _ _), hclock, Int.sub_self, on_pure, Prod.mk.injEq, Except.ok.injEq] at h
  exact ⟨page, listing, large, hits, hpage, hlisting, hlarge, ofHit_mapM_withToken hhits, h.1.symm⟩

theorem size_lt_of_ofHit (hw : SendsWords w.backend) {n n' : Nat} {r r' : SearchRequest}
    {page : Page} {listing large : SearchAnswer} {hits : List FileHit}
    (hlisting : w.backend n (.search r) = .ok listing)
    (hlarge : w.backend n' (.search r') = .ok large)
    (h : hits.map FoundFile.ofHit = (page.cut listing large).2.map FoundFile.ofHit) :
    ∀ hit ∈ hits, hit.content.size < Text.wordBound := by
  intro hit hm
  have hshown : FoundFile.ofHit hit ∈ (page.cut listing large).2.map FoundFile.ofHit :=
    h ▸ List.mem_map_of_mem hm
  obtain ⟨sent, hsent, he⟩ := List.mem_map.mp hshown
  have hsize : sent.content.size = hit.content.size := congrArg FoundFile.size he
  rw [← hsize]
  rcases mem_cut hsent with hfirst | hsecond
  · exact hw _ _ listing hlisting sent hfirst
  · exact hw _ _ large hlarge sent hsecond

end Service

/-! ## Successes -/

/-- The console reads `a` from the text of a value. -/
def Console.Reads {α : Type} (read : Reader α) (j : Json) (a : α) : Prop :=
  (Form.parse? (Text.bytes j.render)).bind read = some a

theorem Console.reads_of_reread {α : Type} {read : Reader α} {j : Json} {a : α}
    (h : read (j.reread Form.depthLimit) = some a) : Reads read j a := by
  rw [Reads, Form.parse?_render, Option.bind_some, h]

namespace Service

open Console (Reads reads_of_reread)

variable {s : Service} {w w' : ServiceWorld}

/-- If the reply tells success it has a value, and `P` holds of that. -/
def OnSuccess (s : Service) (method target : String) (w : ServiceWorld) (P : Json → Prop) : Prop :=
  (s.respond method target w).1.status = 200 →
    ∃ j, (s.respond method target w).1 = .found j ∧ P j

theorem onSuccess_of_call {method target : String} {op : Operation} {P : Json → Prop}
    (hm : method ≠ "HEAD") (hop : operation? method target = some op)
    (h : ∀ r w', (s.carryOut (RequestTarget.ofText target).query op).on w = (.ok r, w') →
      r.status = 200 → ∃ j, r = .found j ∧ P j) : OnSuccess s method target w P := by
  intro hstatus
  exact h _ _ (on_carryOut_of_status hm hop hstatus) hstatus

theorem search_reads (hw : SendsWords w.backend) {p : SearchParams} {r : ServiceReply}
    (h : (s.search p).on w = (.ok r, w')) :
    ∃ j page listing large, r = .found j ∧ Page.parse p.page p.size = .ok page ∧
      w.backend w.calls.length (.search
        ((Query.parse w.clock (p.query.getD "")).page 0 page.depth .listing)) = .ok listing ∧
      w.backend (w.calls.length + 1) (.search
        ((Query.parse w.clock (p.query.getD "")).page 0 page.depth .largeFile)) = .ok large ∧
      ((page.cut listing large).1 < Text.wordBound →
        Reads FoundPage.read j ⟨(page.cut listing large).1, 0,
          (page.cut listing large).2.map FoundFile.ofHit⟩) := by
  obtain ⟨page, listing, large, hits, hpage, hlisting, hlarge, hshown, hr⟩ := search_eq_ok h
  refine ⟨_, page, listing, large, hr, hpage, hlisting, hlarge, fun htotal => ?_⟩
  apply reads_of_reread
  rw [← hshown]
  exact FoundPage.read_page (size_lt_of_ofHit hw hlisting hlarge hshown) (by decide) htotal 122

theorem listTags_reads {r : ServiceReply} (h : listTags.on w = (.ok r, w')) :
    ∃ j counts, r = .found j ∧ (Cache.perform Cache.getTags w.cache).1 = .ok counts ∧
      Reads TagRow.readAll j (counts.map TagRow.ofCount) := by
  obtain ⟨counts, w₁, hcall, h⟩ := on_bind_eq_ok.mp h
  have hcounts := on_caching_eq_ok hcall
  rw [on_pure, Prod.mk.injEq, Except.ok.injEq] at h
  have hread := TagRow.readAll_counts (Cache.gives_getTags.perform hcounts) 125
  exact ⟨_, counts, h.1.symm, hcounts, reads_of_reread hread⟩

theorem counts_read {c : Cache.Call (List TagCount)} (hc : Cache.Gives Cache.Words c)
    {r : ServiceReply} (h : Call.on (do return .found (.obj [("tags", countsJson (← caching c))])) w =
      (.ok r, w')) :
    ∃ j counts, r = .found j ∧ (Cache.perform c w.cache).1 = .ok counts ∧
      Reads TagRow.readChanged j (counts.map TagRow.ofCount) := by
  obtain ⟨counts, w₁, hcall, h⟩ := on_bind_eq_ok.mp h
  have hcounts := on_caching_eq_ok hcall
  rw [on_pure, Prod.mk.injEq, Except.ok.injEq] at h
  have hread := TagRow.readChanged_counts (hc.perform hcounts) 124
  exact ⟨_, counts, h.1.symm, hcounts, reads_of_reread hread⟩

theorem addTag_reads {file type name : String} {r : ServiceReply}
    (h : (addTag file type name).on w = (.ok r, w')) :
    ∃ j tag counts, r = .found j ∧ Tag.ofTexts type name userTagTypes = .ok tag ∧
      (Cache.perform (Cache.addTag file tag) w.cache).1 = .ok counts ∧
      Reads TagRow.readChanged j (counts.map TagRow.ofCount) := by
  obtain ⟨tag, w₁, hcheck, h⟩ := on_bind_eq_ok.mp h
  obtain ⟨htag, rfl⟩ := on_check_eq_ok.mp hcheck
  obtain ⟨j, counts, hr, hcounts, hread⟩ := counts_read (Cache.gives_addTag file tag) h
  exact ⟨j, tag, counts, hr, htag, hcounts, hread⟩

theorem removeTag_reads {file type name : String} {r : ServiceReply}
    (h : (removeTag file type name).on w = (.ok r, w')) :
    ∃ j tagType tag counts, r = .found j ∧ TagType.parse type = .ok tagType ∧
      Tag.make tagType name = .ok tag ∧
      (Cache.perform (Cache.removeTag file tag) w.cache).1 = .ok counts ∧
      Reads TagRow.readChanged j (counts.map TagRow.ofCount) := by
  obtain ⟨tagType, w₁, hcheck, h⟩ := on_bind_eq_ok.mp h
  obtain ⟨htype, rfl⟩ := on_check_eq_ok.mp hcheck
  obtain ⟨tag, w₂, hcheck', h⟩ := on_bind_eq_ok.mp h
  obtain ⟨htag, rfl⟩ := on_check_eq_ok.mp hcheck'
  obtain ⟨j, counts, hr, hcounts, hread⟩ := counts_read (Cache.gives_removeTag file tag) h
  exact ⟨j, tagType, tag, counts, hr, htype, htag, hcounts, hread⟩

theorem dashboard_reads {r : ServiceReply} (h : dashboard.on w = (.ok r, w')) :
    ∃ j answer d days, r = .found j ∧
      w.backend w.calls.length (.search .dashboard) = .ok answer ∧
      d = Dashboard.project (.ofJson answer.aggregations) w.clock.day ∧
      Reads Activity.read j ⟨d.total.count, d.names, days⟩ ∧
      List.Forall₂ (fun (e : DayEntry) day => e.ReadAs d.names day) d.days days := by
  obtain ⟨answer, w₁, hask, h⟩ := on_bind_eq_ok.mp h
  obtain ⟨hanswer, -⟩ := on_ask_eq_ok.mp hask
  rw [on_bind_ok (on_now _), clock_of_on hask, on_pure, Prod.mk.injEq, Except.ok.injEq] at h
  obtain ⟨days, hread, hdays⟩ :=
    read_project (Aggregations.words_ofJson answer.aggregations) w.clock.day 123
  exact ⟨_, answer, _, days, h.1.symm, hanswer, rfl, reads_of_reread hread, hdays⟩

/-- **The console reads every success without loss.** Of a search it reads the hits of the page and the
total, as long as a word holds the sum of both replies; of a list or a change of tags all counts; of the
dashboard the number of all files, the names of the sources, and each day with the counts that were
projected. -/
theorem success_read_back (s : Service) (w : ServiceWorld) (hw : SendsWords w.backend)
    (target : String) :
    (operation? "GET" target = some .search → OnSuccess s "GET" target w fun j =>
      ∃ p page listing large, SearchParams.parse? (RequestTarget.ofText target).query = some p ∧
        Page.parse p.page p.size = .ok page ∧
        w.backend w.calls.length (.search
          ((Query.parse w.clock (p.query.getD "")).page 0 page.depth .listing)) = .ok listing ∧
        w.backend (w.calls.length + 1) (.search
          ((Query.parse w.clock (p.query.getD "")).page 0 page.depth .largeFile)) = .ok large ∧
        ((page.cut listing large).1 < Text.wordBound →
          Reads FoundPage.read j ⟨(page.cut listing large).1, 0,
            (page.cut listing large).2.map FoundFile.ofHit⟩)) ∧
    (operation? "GET" target = some .listTags → OnSuccess s "GET" target w fun j =>
      ∃ counts, (Cache.perform Cache.getTags w.cache).1 = .ok counts ∧
        Reads TagRow.readAll j (counts.map TagRow.ofCount)) ∧
    (∀ file type name, operation? "POST" target = some (.addTag file type name) →
      OnSuccess s "POST" target w fun j => ∃ tag counts,
        Tag.ofTexts type name userTagTypes = .ok tag ∧
        (Cache.perform (Cache.addTag file tag) w.cache).1 = .ok counts ∧
        Reads TagRow.readChanged j (counts.map TagRow.ofCount)) ∧
    (∀ file type name, operation? "DELETE" target = some (.removeTag file type name) →
      OnSuccess s "DELETE" target w fun j => ∃ tagType tag counts,
        TagType.parse type = .ok tagType ∧ Tag.make tagType name = .ok tag ∧
        (Cache.perform (Cache.removeTag file tag) w.cache).1 = .ok counts ∧
        Reads TagRow.readChanged j (counts.map TagRow.ofCount)) ∧
    (operation? "GET" target = some .dashboard → OnSuccess s "GET" target w fun j =>
      ∃ answer d days, w.backend w.calls.length (.search .dashboard) = .ok answer ∧
        d = Dashboard.project (.ofJson answer.aggregations) w.clock.day ∧
        Reads Activity.read j ⟨d.total.count, d.names, days⟩ ∧
        List.Forall₂ (fun (e : DayEntry) day => e.ReadAs d.names day) d.days days) := by
  refine ⟨?_, ?_, ?_, ?_, ?_⟩
  · intro hop
    refine onSuccess_of_call (by decide) hop fun r w' h hstatus => ?_
    obtain ⟨p, hp, h⟩ := on_searching_eq_ok h hstatus
    obtain ⟨j, page, listing, large, hr, hfound⟩ := search_reads hw h
    exact ⟨j, hr, p, page, listing, large, hp, hfound⟩
  · intro hop
    refine onSuccess_of_call (by decide) hop fun r w' h _ => ?_
    obtain ⟨j, counts, hr, hread⟩ := listTags_reads h
    exact ⟨j, hr, counts, hread⟩
  · intro file type name hop
    refine onSuccess_of_call (by decide) hop fun r w' h _ => ?_
    obtain ⟨j, tag, counts, hr, hread⟩ := addTag_reads h
    exact ⟨j, hr, tag, counts, hread⟩
  · intro file type name hop
    refine onSuccess_of_call (by decide) hop fun r w' h _ => ?_
    obtain ⟨j, tagType, tag, counts, hr, hread⟩ := removeTag_reads h
    exact ⟨j, hr, tagType, tag, counts, hread⟩
  · intro hop
    refine onSuccess_of_call (by decide) hop fun r w' h _ => ?_
    obtain ⟨j, answer, d, days, hr, hread⟩ := dashboard_reads h
    exact ⟨j, hr, answer, d, days, hread⟩

/-- An answer about five files, two of which one source has brought on a single day. -/
def fiveFiles : SearchAnswer where
  total := 5
  hits := [{ fileId := "a", content := { size := 7 } }]
  aggregations := .obj [
    ("proc_rate", .obj [("buckets", .arr [.obj [("key", .nat 0), ("source", .obj [("buckets",
      .arr [.obj [("key", .str "web"), ("doc_count", .nat 2)]])])]])]),
    ("proc_total", .obj [("count", .nat 5)])]

/-- A world in which the first search has that answer, and the next ones tell of two more files. One of
two files has a tag. -/
def fiveFilesWorld : ServiceWorld where
  cache := { index := ⟨[("a", [⟨.manual, "tax"⟩]), ("b", [])]⟩ }
  backend
    | 0, .search _ => .ok fiveFiles
    | _ + 1, .search _ => .ok ⟨2, [], .null⟩
    | _, .file _ => .ok none
    | _, .setHidden _ _ => .ok ()
  clock := ⟨0⟩

/-- A page of hits, the tags before and after a change of each kind, and the days of the dashboard. -/
theorem success_read_back_fiveFiles :
    let s : Service := ⟨Codec.ofSecret "secret", 50⟩
    let reply := fun method target => (s.respond method target fiveFilesWorld).1
    SendsWords fiveFilesWorld.backend ∧
    (∃ j, reply "GET" "/api/search?query=tax" = .found j ∧
      Reads FoundPage.read j ⟨7, 0, [⟨"a", "", "", 7, []⟩]⟩) ∧
    (∃ j, reply "GET" "/api/tags" = .found j ∧ Reads TagRow.readAll j [⟨"tax", "manual", 1⟩]) ∧
    (∃ j, reply "POST" "/api/tags/b/manual/tax" = .found j ∧
      Reads TagRow.readChanged j [⟨"tax", "manual", 2⟩]) ∧
    (∃ j, reply "DELETE" "/api/tags/a/manual/tax" = .found j ∧ Reads TagRow.readChanged j []) ∧
    ∃ j days, reply "GET" "/api/stats" = .found j ∧
      Reads Activity.read j ⟨5, ["web"], days⟩ ∧ days.length = 30 := by
  intro s reply
  have hw : SendsWords fiveFilesWorld.backend := by
    rintro (_ | n) r _ ⟨⟩ <;> decide
  refine ⟨hw, ?_, ?_, ?_, ?_, ?_⟩
  · obtain ⟨j, hj, p, page, listing, large, hp, hpage, hlisting, hlarge, hread⟩ :=
      (success_read_back s fiveFilesWorld hw "/api/search?query=tax").1 (by decide +kernel)
        (by decide +kernel)
    obtain rfl : fiveFiles = listing := Except.ok.inj hlisting
    obtain rfl : ⟨2, [], .null⟩ = large := Except.ok.inj hlarge
    have hparams : SearchParams.parse? (RequestTarget.ofText "/api/search?query=tax").query =
        some ⟨some "tax", none, none⟩ := by decide +kernel
    obtain rfl := Option.some.inj (hparams.symm.trans hp)
    have hfirst : Page.parse none none = .ok ⟨0, 10, 0⟩ := by decide +kernel
    obtain rfl := Except.ok.inj (hfirst.symm.trans hpage)
    have hcut : Page.cut ⟨0, 10, 0⟩ fiveFiles ⟨2, [], .null⟩ = (7, fiveFiles.hits) := by decide +kernel
    rw [hcut] at hread
    exact ⟨j, hj, hread (by decide)⟩
  · obtain ⟨j, hj, counts, hcounts, hread⟩ :=
      (success_read_back s fiveFilesWorld hw "/api/tags").2.1 (by decide +kernel) (by decide +kernel)
    have hlist : (Cache.perform Cache.getTags fiveFilesWorld.cache).1 =
        .ok [⟨"tax", .manual, 1⟩] := by decide +kernel
    obtain rfl := Except.ok.inj (hlist.symm.trans hcounts)
    exact ⟨j, hj, hread⟩
  · obtain ⟨j, hj, tag, counts, htag, hcounts, hread⟩ :=
      (success_read_back s fiveFilesWorld hw "/api/tags/b/manual/tax").2.2.1 "b" "manual" "tax"
        (by decide +kernel) (by decide +kernel)
    have hmade : Tag.ofTexts "manual" "tax" userTagTypes = .ok ⟨.manual, "tax"⟩ := by decide +kernel
    obtain rfl := Except.ok.inj (hmade.symm.trans htag)
    have hlist : (Cache.perform (Cache.addTag "b" ⟨.manual, "tax"⟩) fiveFilesWorld.cache).1 =
        .ok [⟨"tax", .manual, 2⟩] := by decide +kernel
    obtain rfl := Except.ok.inj (hlist.symm.trans hcounts)
    exact ⟨j, hj, hread⟩
  · obtain ⟨j, hj, type, tag, counts, htype, htag, hcounts, hread⟩ :=
      (success_read_back s fiveFilesWorld hw "/api/tags/a/manual/tax").2.2.2.1 "a" "manual" "tax"
        (by decide +kernel) (by decide +kernel)
    have hmanual : TagType.parse "manual" = .ok .manual := by decide +kernel
    obtain rfl := Except.ok.inj (hmanual.symm.trans htype)
    have hmade : Tag.make .manual "tax" = .ok ⟨.manual, "tax"⟩ := by decide +kernel
    obtain rfl := Except.ok.inj (hmade.symm.trans htag)
    have hlist : (Cache.perform (Cache.removeTag "a" ⟨.manual, "tax"⟩) fiveFilesWorld.cache).1 =
        .ok [] := by decide +kernel
    obtain rfl := Except.ok.inj (hlist.symm.trans hcounts)
    exact ⟨j, hj, hread⟩
  · obtain ⟨j, hj, answer, d, days, hanswer, rfl, hread, hdays⟩ :=
      (success_read_back s fiveFilesWorld hw "/api/stats").2.2.2.2 (by decide +kernel)
        (by decide +kernel)
    obtain rfl : fiveFiles = answer := Except.ok.inj hanswer
    have hcount : (Dashboard.project (.ofJson fiveFiles.aggregations)
        fiveFilesWorld.clock.day).total.count = 5 := by decide +kernel
    have hnames : (Dashboard.project (.ofJson fiveFiles.aggregations)
        fiveFilesWorld.clock.day).names = ["web"] := by decide +kernel
    rw [hcount, hnames] at hread
    exact ⟨j, days, hj, hread, hdays.length_eq.symm⟩

end Service

end DocSearch
