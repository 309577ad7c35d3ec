import Mathlib
import DocSearch.Proofs.Cache.Run
import DocSearch.Proofs.Service.Call
import DocSearch.Proofs.Service.Rejected
import DocSearch.Proofs.Service.Route
import DocSearch.Proofs.Tag
import DocSearch.Proofs.TagIndex
/-!
# Where the tags of the index come from

* `TagIndex.GrowsBy`: an index has become another one with the same files, and at most some new tags.
* `Action.Adds`, `Step.Adds`: what a step can give; **`growsBy_perform`**: it gives nothing else.
* `Operation.Gives`: the tags that an operation can give; `takes_carryOut`: all its steps keep to them.
* `growsBy_answer`: what one request can give.
* **`serve_tag_origin`**: every tag that a session has brought was given by a request on the route for
  its type, under a normal name, to a file that was known before.
-/

namespace DocSearch

/-! ## Growth -/

namespace TagIndex

/-- The files are the same, and no tags are new but those in `S`. -/
structure GrowsBy (S : String → Tag → Prop) (x y : TagIndex) : Prop where
  known : y.known = x.known
  carries : ∀ {file tag}, y.Carries file tag → x.Carries file tag ∨ S file tag

variable {S : String → Tag → Prop} {x y z : TagIndex}

theorem GrowsBy.refl (x : TagIndex) : GrowsBy S x x := ⟨rfl, .inl⟩

theorem GrowsBy.trans (h : GrowsBy S x y) (h' : GrowsBy S y z) : GrowsBy S x z :=
  ⟨h'.known.trans h.known, fun hz => (h'.carries hz).elim h.carries .inr⟩

theorem GrowsBy.mono {T : String → Tag → Prop} (h : GrowsBy S x y)
    (hst : ∀ file tag, S file tag → T file tag) : GrowsBy T x y :=
  ⟨h.known, fun hy => (h.carries hy).imp_right (hst _ _)⟩

end TagIndex

open TagIndex (GrowsBy)

variable {S : String → Tag → Prop} {α β : Type}

/-! ## The tag cache -/

/-- The action gives no tags but those in `S`. -/
def Action.Adds (S : String → Tag → Prop) (a : Action) : Prop :=
  ∀ file tag, a = .add file tag → S file tag

theorem growsBy_calling {γ : Type} (w : CacheWorld) (p : FaultPoint)
    {call : CacheWorld → Except ProviderError γ × CacheWorld}
    (h : GrowsBy S w.index (call w).2.index) : GrowsBy S w.index (w.calling p call).2.index := by
  rcases calling_cases w p call with e | ⟨text, rest, -, e⟩
  · rw [e]
    exact h
  · rw [e]
    exact .refl _

/-- **An action gives at most its own tag.** -/
theorem growsBy_perform {a : Action} (h : a.Adds S) (w : CacheWorld) :
    GrowsBy S w.index (a.perform w).2.index := by
  cases a with
  | add file tag =>
    obtain ⟨hknown, hcarries⟩ := TagIndex.carries_add w.index file tag
    refine growsBy_calling w _ ⟨hknown, fun {g t} hg => ?_⟩
    rcases hcarries g t hg with hg | ⟨rfl, rfl⟩
    · exact .inl hg
    · exact .inr (h _ _ rfl)
  | remove file tag =>
    obtain ⟨hknown, hcarries⟩ := TagIndex.carries_remove w.index file tag
    exact growsBy_calling w _ ⟨hknown, fun {g t} hg => .inl (hcarries g t hg)⟩
  | acquire | release | flag => exact .refl _
  | contains | observe | count | writeAll | readAll | adjust | delete =>
    apply growsBy_calling w
    exact .refl _

namespace Cache

theorem takes_between {before after : Action} (hb : before.Adds S) (ha : after.Adds S) {c : Call α}
    (hc : c.run.Takes (Action.Adds S)) : (between before after c).run.Takes (Action.Adds S) := by
  apply Procedure.Takes.exceptT_bind
  · exact Procedure.Takes.exceptT_lift ⟨hb, fun _ => trivial⟩
  intro _
  apply Procedure.Takes.exceptT_bind (Procedure.Takes.exceptT_lift hc)
  intro r
  apply Procedure.Takes.exceptT_bind
  · exact Procedure.Takes.exceptT_lift ⟨ha, fun _ => trivial⟩
  · exact fun _ => trivial

theorem takes_isHydrated : isHydrated.run.Takes (Action.Adds S) := ⟨nofun, fun _ => trivial⟩

theorem takes_fill : fill.run.Takes (Action.Adds S) := by
  apply Procedure.Takes.exceptT_bind
  · exact Procedure.Takes.exceptT_lift ⟨nofun, fun _ => trivial⟩
  intro _
  apply Procedure.Takes.exceptT_bind (c := call (.ofAction Action.count)) ⟨nofun, fun _ => trivial⟩
  intro counts
  split_ifs
  · trivial
  · exact ⟨nofun, fun _ => trivial⟩

theorem takes_hydrate : hydrate.run.Takes (Action.Adds S) := by
  apply takes_isHydrated.exceptT_bind
  intro found
  split_ifs
  · trivial
  apply takes_between nofun nofun
  apply takes_isHydrated.exceptT_bind
  intro found
  split_ifs
  · trivial
  · exact takes_between nofun nofun takes_fill

theorem takes_getTags : getTags.run.Takes (Action.Adds S) := by
  apply takes_hydrate.exceptT_bind
  intro _
  exact Procedure.Takes.exceptT_bind (c := call (.ofAction Action.readAll))
    ⟨nofun, fun _ => trivial⟩ fun _ => trivial

theorem takes_afterChange (change : TagChange) (tag : Tag) (delta : Int) :
    (afterChange change tag delta).run.Takes (Action.Adds S) := by
  unfold afterChange
  split_ifs
  · exact Procedure.Takes.exceptT_bind (c := call (.ofAction (Action.adjust tag.cacheField delta)))
      ⟨nofun, fun _ => trivial⟩ fun _ => takes_getTags
  · exact takes_getTags

theorem takes_addTag {file : String} {tag : Tag} (h : S file tag) :
    (addTag file tag).run.Takes (Action.Adds S) := by
  have hadds : (Action.add file tag).Adds S := by
    rintro _ _ ⟨⟩
    exact h
  exact Procedure.Takes.exceptT_bind (c := call (.ofAction (Action.add file tag)))
    ⟨hadds, fun _ => trivial⟩ fun change => takes_afterChange change tag 1

theorem takes_removeTag (file : String) (tag : Tag) :
    (removeTag file tag).run.Takes (Action.Adds S) :=
  Procedure.Takes.exceptT_bind (c := call (.ofAction (Action.remove file tag)))
    ⟨nofun, fun _ => trivial⟩ fun change => takes_afterChange change tag (-1)

theorem takes_flush : flush.run.Takes (Action.Adds S) :=
  takes_between nofun nofun ⟨nofun, fun _ => trivial⟩

end Cache

/-! ## The service -/

/-- The step gives no tags but those in `S`. -/
def Step.Adds (S : String → Tag → Prop) : Step → Prop
  | .cache a => a.Adds S
  | _ => True

theorem growsBy_step {step : Step} (h : step.Adds S) (w : ServiceWorld) :
    GrowsBy S w.cache.index (step.perform w).2.cache.index := by
  cases step with
  | cache a => exact growsBy_perform h w.cache
  | backend | clock | nonce => exact .refl _

/-- The tags that an operation can give: a user gives manual ones, other services those of the other
types. -/
def Operation.Gives : Operation → String → Tag → Prop
  | .addTag file type name, f, t =>
    f = file ∧ Tag.ofTexts type name Service.userTagTypes = .ok t
  | .addServiceTag file type name, f, t =>
    f = file ∧ Tag.ofTexts type name Service.serviceTagTypes = .ok t
  | _, _, _ => False

namespace Service

/-- All steps of a call keep to the tags in `S`. -/
structure Takes (S : String → Tag → Prop) (c : Call α) : Prop where
  run : c.run.Takes (Step.Adds S)

theorem takes_pure (a : α) : Takes S (pure a) := ⟨trivial⟩

theorem takes_throw (e : ServiceError) : Takes S (throw e : Call α) := ⟨trivial⟩

theorem Takes.bind {c : Call α} {f : α → Call β} (hc : Takes S c) (hf : ∀ a, Takes S (f a)) :
    Takes S (c >>= f) :=
  ⟨hc.run.exceptT_bind fun a => (hf a).run⟩

theorem takes_check (x : Except ValidationError α) {f : α → Call β}
    (hf : ∀ a, x = .ok a → Takes S (f a)) : Takes S (check x >>= f) := by
  cases x with
  | ok a => exact hf a rfl
  | error e => exact takes_throw _

theorem takes_ask (r : SearchRequest) : Takes S (ask r) :=
  ⟨trivial, fun _ => trivial⟩

theorem takes_now : Takes S now := ⟨trivial, fun _ => trivial⟩

theorem takes_freshNonce : Takes S freshNonce := ⟨trivial, fun _ => trivial⟩

theorem takes_since (start : Instant) : Takes S (since start) := takes_now.bind fun _ => takes_pure _

theorem takes_caching {c : Cache.Call α} (h : c.run.Takes (Action.Adds S)) :
    Takes S (caching c) := by
  have hstep : ∀ a : Action, a.Adds S →
      (Procedure.ofAction (Step.cache a) : Procedure Step.Reply _).Takes (Step.Adds S) :=
    fun a ha => ⟨ha, fun _ => trivial⟩
  exact ⟨(h.embed hstep).bind fun _ => trivial⟩

theorem takes_mapM {f : α → Call β} (h : ∀ a, Takes S (f a)) (as : List α) :
    Takes S (as.mapM f) := by
  induction as with
  | nil => exact takes_pure _
  | cons a as ih =>
    rw [List.mapM_cons]
    exact (h a).bind fun _ => ih.bind fun _ => takes_pure _

theorem takes_withToken (s : Service) (hit : FileHit) : Takes S (s.withToken hit) := by
  apply takes_freshNonce.bind
  intro nonce
  cases s.codec.encode nonce hit.fileId with
  | ok token => exact takes_pure _
  | error e => exact takes_throw _

theorem takes_search (s : Service) (p : SearchParams) : Takes S (s.search p) := by
  apply takes_check
  intro page _
  apply takes_now.bind
  intro start
  apply (takes_ask _).bind
  intro listing
  apply (takes_ask _).bind
  intro large
  apply (takes_mapM s.takes_withToken _).bind
  intro hits
  exact (takes_since start).bind fun _ => takes_pure _

theorem takes_aggregated (query : String) (request : Query → SearchRequest) :
    Takes S (aggregated query request) := by
  apply takes_now.bind
  intro start
  apply (takes_ask _).bind
  intro answer
  exact (takes_since start).bind fun _ => takes_pure _

theorem takes_hitIn (file : String) (p : SearchParams) (mode : HighlightMode) :
    Takes S (hitIn file p mode) := by
  apply takes_check
  intro query _
  exact takes_now.bind fun _ => (takes_ask _).bind fun _ => takes_pure _

theorem takes_searching (query : List Char) {go : SearchParams → Call ServiceReply}
    (h : ∀ p, Takes S (go p)) : Takes S (searching query go) := by
  unfold searching
  split
  · exact h _
  · exact takes_pure _

theorem takes_addTag {file type name : String}
    (h : ∀ tag, Tag.ofTexts type name userTagTypes = .ok tag → S file tag) :
    Takes S (addTag file type name) := by
  unfold addTag
  apply takes_check
  intro tag htag
  exact (takes_caching (Cache.takes_addTag (h tag htag))).bind fun _ => takes_pure _

theorem takes_addServiceTag {file type name : String}
    (h : ∀ tag, Tag.ofTexts type name serviceTagTypes = .ok tag → S file tag) :
    Takes S (addServiceTag file type name) := by
  unfold addServiceTag
  apply takes_check
  intro tag htag
  exact (takes_caching (Cache.takes_addTag (h tag htag))).bind fun _ => takes_pure _

theorem takes_removeTag (file type name : String) : Takes S (removeTag file type name) := by
  unfold removeTag
  apply takes_check
  intro type _
  apply takes_check
  intro tag _
  exact (takes_caching (Cache.takes_removeTag file tag)).bind fun _ => takes_pure _

theorem takes_fileOfToken (s : Service) (token : String) : Takes S (s.fileOfToken token) := by
  unfold fileOfToken
  split
  · exact takes_throw _
  · apply Takes.bind (c := provided (.ofAction (Step.backend (.file _)))) ⟨trivial, fun _ => trivial⟩
    intro hit
    cases hit with
    | some hit => exact takes_pure _
    | none => exact takes_throw _

/-- **An operation gives no tags but its own.** -/
theorem takes_carryOut (s : Service) (query : List Char) (op : Operation) :
    Takes op.Gives (s.carryOut query op) := by
  cases op with
  | search => exact takes_searching query s.takes_search
  | folders => exact takes_searching query fun p => takes_aggregated _ _
  | statistics => exact takes_searching query fun p => takes_aggregated _ _
  | fragments file =>
    exact takes_searching query fun p => (takes_hitIn file p _).bind fun _ => takes_pure _
  | wholeText file =>
    refine takes_searching query fun p => (takes_hitIn file p _).bind fun hit => ?_
    cases hit with
    | some hit => exact takes_pure _
    | none => exact takes_throw _
  | listTags => exact (takes_caching Cache.takes_getTags).bind fun _ => takes_pure _
  | flushTags => exact (takes_caching Cache.takes_flush).bind fun _ => takes_pure _
  | addServiceTag file type name => exact takes_addServiceTag fun tag htag => ⟨rfl, htag⟩
  | addTag file type name => exact takes_addTag fun tag htag => ⟨rfl, htag⟩
  | removeTag file type name => exact takes_removeTag file type name
  | setHidden file hidden =>
    exact Takes.bind (c := provided (.ofAction (Step.backend (.setHidden file hidden))))
      ⟨trivial, fun _ => trivial⟩ fun _ => takes_pure _
  | fileOfToken token => exact s.takes_fileOfToken token
  | dashboard => exact (takes_ask _).bind fun _ => takes_now.bind fun _ => takes_pure _
  | overview => exact takes_aggregated "*" fun q => q.statistics (some overviewTagLimit)
  | processing => exact (takes_ask _).bind fun _ => takes_pure _

/-! ## Requests -/

/-- The segments of a path that stand for a file, a type and a name say that the file is given the tag. -/
structure Names (segments : String × String × String) (file : String) (tag : Tag) : Prop where
  file : Operation.decodeText? segments.1 = some file
  type : ∃ text, Operation.decodeText? segments.2.1 = some text ∧ TagType.parse text = .ok tag.type
  name : ∃ text, Operation.decodeText? segments.2.2 = some text ∧
    Text.lower (Text.trim text) = tag.name

/-- What stands before these segments: there is one route for manual tags and one for the others. -/
def routeTo (type : TagType) : List String :=
  if type = .manual then ["api", "tags"] else ["api", "tags", "service"]

/-- The request asks to give a file a tag, on the route for its type. -/
def Posts (method target file : String) (tag : Tag) : Prop :=
  method = "POST" ∧ ∃ f t n, (RequestTarget.ofText target).path = routeTo tag.type ++ [f, t, n] ∧
    Names (f, t, n) file tag

theorem posts_of_gives {method target file : String} {tag : Tag} {op : Operation}
    (h : operation? method target = some op) (hg : op.Gives file tag) :
    Posts method target file tag ∧ tag.IsNormal := by
  obtain ⟨op', hlookup, hdecoded⟩ := Option.bind_eq_some_iff.mp h
  have hlookup : (Operation.offeredBy (RequestTarget.ofText target).path).lookup method = some op' := by
    unfold Operation.offered at hlookup
    split_ifs at hlookup
    · cases hlookup
    · exact hlookup
  cases op with
  | addTag file' type name =>
    obtain ⟨rfl, htag⟩ := hg
    obtain ⟨htype, hallowed, hmake⟩ := Tag.ofTexts_eq_ok_iff.mp htag
    obtain ⟨f, t, n, rfl, hf, ht, hn⟩ := Operation.decoded?_addTag_iff.mp hdecoded
    obtain ⟨hmethod, hpath⟩ := Operation.lookup_addTag_iff.mp hlookup
    have hmanual : tag.type = .manual := List.mem_singleton.mp hallowed
    have hname := congrArg Tag.name (Tag.make_eq_ok_iff.mp hmake).1
    refine ⟨⟨hmethod, f, t, n, ?_, hf, ⟨type, ht, htype⟩, name, hn, hname.symm⟩,
      Tag.isNormal_of_make hmake⟩
    rw [hpath, routeTo, if_pos hmanual]
    rfl
  | addServiceTag file' type name =>
    obtain ⟨rfl, htag⟩ := hg
    obtain ⟨htype, hallowed, hmake⟩ := Tag.ofTexts_eq_ok_iff.mp htag
    obtain ⟨f, t, n, rfl, hf, ht, hn⟩ := Operation.decoded?_addServiceTag_iff.mp hdecoded
    obtain ⟨hmethod, hpath⟩ := Operation.lookup_addServiceTag_iff.mp hlookup
    have hmanual : tag.type ≠ .manual := by
      rintro hm
      rw [hm] at hallowed
      exact absurd hallowed (by decide)
    have hname := congrArg Tag.name (Tag.make_eq_ok_iff.mp hmake).1
    refine ⟨⟨hmethod, f, t, n, ?_, hf, ⟨type, ht, htype⟩, name, hn, hname.symm⟩,
      Tag.isNormal_of_make hmake⟩
    rw [hpath, routeTo, if_neg hmanual]
    rfl
  | _ => exact hg.elim

/-- The tags that a request can give. -/
def Gives (method target file : String) (tag : Tag) : Prop :=
  ∃ op, operation? method target = some op ∧ op.Gives file tag

theorem growsBy_handleOffered (s : Service) (method target : String) (w : ServiceWorld) :
    GrowsBy (Gives method target) w.cache.index
      ((s.handleOffered method (.ofText target)).run Step.perform w).2.cache.index := by
  cases h : operation? method target with
  | none =>
    obtain ⟨r, -, hd⟩ := handleOffered_of_none h
    rw [hd]
    exact .refl _
  | some op =>
    rw [handleOffered_of_operation? h, run_reply]
    have hrun := (s.takes_carryOut (RequestTarget.ofText target).query op).run.run
      (I := fun v => GrowsBy op.Gives w.cache.index v.cache.index)
      (fun a v ha hv => hv.trans (growsBy_step ha v)) (.refl _)
    exact hrun.mono fun file tag hg => ⟨op, h, hg⟩

/-- **A request gives at most the tag that it asks to give.** -/
theorem growsBy_respond (s : Service) (method target : String) (w : ServiceWorld) :
    GrowsBy (Gives method target) w.cache.index (s.respond method target w).2.cache.index := by
  unfold respond handle
  dsimp only
  split_ifs with hhead
  · rw [Procedure.run_bind]
    -- Whoever asks for a head is answered as for GET, by which no tag is given.
    refine (s.growsBy_handleOffered "GET" target w).mono fun file tag ⟨op, hop, hg⟩ => ?_
    exact absurd (posts_of_gives hop hg).1.1 (by decide)
  · exact s.growsBy_handleOffered method target w

/-! ## Sessions -/

theorem growsBy_answer (s : Service) (a : Arrival) (w : ServiceWorld) :
    GrowsBy (Gives a.method a.target) w.cache.index (s.answer a w).2.cache.index :=
  s.growsBy_respond a.method a.target (w.meet a)

theorem known_serve (s : Service) (as : List Arrival) (w : ServiceWorld) :
    (s.serve as w).2.cache.index.known = w.cache.index.known := by
  induction as generalizing w with
  | nil => rfl
  | cons a as ih =>
    rw [serve_cons, ih]
    exact (s.growsBy_answer a w).known

/-- A tag that has come was given by one of the requests. -/
theorem exists_giver (s : Service) (as : List Arrival) (w : ServiceWorld) {file : String} {tag : Tag}
    (hend : (s.serve as w).2.cache.index.Carries file tag)
    (hstart : ¬ w.cache.index.Carries file tag) :
    ∃ before a after, as = before ++ a :: after ∧
      ¬ (s.serve before w).2.cache.index.Carries file tag ∧
      (s.serve (before ++ [a]) w).2.cache.index.Carries file tag ∧
      Gives a.method a.target file tag := by
  induction as generalizing w with
  | nil => exact absurd hend hstart
  | cons a as ih =>
    by_cases h : (s.answer a w).2.cache.index.Carries file tag
    · exact ⟨[], a, as, rfl, hstart, h, ((s.growsBy_answer a w).carries h).resolve_left hstart⟩
    · obtain ⟨before, b, after, rfl, hbefore, hafter, hgives⟩ := ih _ hend h
      exact ⟨a :: before, b, after, rfl, hbefore, hafter, hgives⟩

/-- **Every tag that a session has brought** belongs to a file that was known before and has a normal
name, and one request has posted it on the route for its type. No file becomes known, and without a post
on the route of other services there are no more tags of theirs. -/
theorem serve_tag_origin (s : Service) (as : List Arrival) (w : ServiceWorld) :
    (s.serve as w).2.cache.index.known = w.cache.index.known ∧
    (∀ file tag, (s.serve as w).2.cache.index.Carries file tag →
      ¬ w.cache.index.Carries file tag →
      file ∈ w.cache.index.known ∧ tag.IsNormal ∧ Tag.make tag.type tag.name = .ok tag ∧
      ∃ before a after, as = before ++ a :: after ∧ Posts a.method a.target file tag ∧
        ¬ (s.serve before w).2.cache.index.Carries file tag ∧
        (s.serve (before ++ [a]) w).2.cache.index.Carries file tag) ∧
    ((∀ a ∈ as, ∀ f t n, a.method = "POST" →
        (RequestTarget.ofText a.target).path ≠ ["api", "tags", "service", f, t, n]) →
      ∀ file tag, tag.type ≠ .manual → (s.serve as w).2.cache.index.Carries file tag →
        w.cache.index.Carries file tag) := by
  have horigin : ∀ file tag, (s.serve as w).2.cache.index.Carries file tag →
      ¬ w.cache.index.Carries file tag → tag.IsNormal ∧
      ∃ before a after, as = before ++ a :: after ∧ Posts a.method a.target file tag ∧
        ¬ (s.serve before w).2.cache.index.Carries file tag ∧
        (s.serve (before ++ [a]) w).2.cache.index.Carries file tag := by
    intro file tag hend hstart
    obtain ⟨before, a, after, has, hbefore, hafter, op, hop, hg⟩ := s.exists_giver as w hend hstart
    obtain ⟨hposts, hnormal⟩ := posts_of_gives hop hg
    exact ⟨hnormal, before, a, after, has, hposts, hbefore, hafter⟩
  refine ⟨s.known_serve as w, fun file tag hend hstart => ?_, fun hnone file tag htype hend => ?_⟩
  · obtain ⟨hnormal, hposted⟩ := horigin file tag hend hstart
    refine ⟨?_, hnormal, Tag.isNormal_iff.mp hnormal, hposted⟩
    rw [← s.known_serve as w]
    exact hend.mem_known
  · by_contra hstart
    obtain ⟨-, before, a, after, rfl, ⟨hmethod, f, t, n, hpath, -⟩, -⟩ :=
      horigin file tag hend hstart
    rw [routeTo, if_neg htype] at hpath
    exact hnone a (by simp) f t n hmethod hpath

/-- The one tag that the mixed session brings was posted. -/
theorem serve_tag_origin_mixed :
    let s : Service := ⟨Codec.ofSecret "secret", 50⟩
    (s.serve mixedSession oneFile).2.cache.index.Carries "a" ⟨.manual, "pdf"⟩ ∧
      ¬ oneFile.cache.index.Carries "a" ⟨.manual, "pdf"⟩ ∧
      ∃ a ∈ mixedSession, Posts a.method a.target "a" ⟨.manual, "pdf"⟩ := by
  intro s
  have hindex : (s.serve mixedSession oneFile).2.cache.index =
      ⟨[("a", [⟨.manual, "pdf"⟩])]⟩ := by decide +kernel
  have hend : (s.serve mixedSession oneFile).2.cache.index.Carries "a" ⟨.manual, "pdf"⟩ := by
    rw [hindex]
    exact ⟨_, rfl, List.mem_singleton_self _⟩
  have hstart : ¬ oneFile.cache.index.Carries "a" ⟨.manual, "pdf"⟩ := by
    rintro ⟨tags, htags, ht⟩
    obtain rfl : [] = tags := Option.some.inj htags
    cases ht
  obtain ⟨-, -, -, before, a, after, has, hposts, -⟩ :=
    (serve_tag_origin s mixedSession oneFile).2.1 "a" _ hend hstart
  exact ⟨hend, hstart, a, by simp [has], hposts⟩

end Service

end DocSearch
