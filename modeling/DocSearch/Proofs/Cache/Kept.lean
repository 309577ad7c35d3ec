import Mathlib
import DocSearch.Proofs.Cache.Rows
import DocSearch.Proofs.Store
/-!
# A store that keeps a tally

`Tally.KeptIn n s`: the hash of the counts is absent, or its rows tell the tally `n`, at least one
row, and it has no deadline. Each operation of the store that the cache uses keeps it:

* `KeptIn.purge`, `KeptIn.delete`: time passes, and the hash is dropped;
* `keptIn_setAll`: the hydration of an absent hash;
* **`KeptIn.adjust`**: a count moves by some difference, and the tally kept moves with it.
-/

namespace DocSearch.Tally

/-- The hash of the counts is absent, or tells the tally. -/
structure KeptIn (n : Tally) (s : Store) : Prop where
  lasting : s.Lasting tagsKey
  rows : ∀ h, s.hash? tagsKey = some h → n.Rows h.fields
  ne_nil : ∀ h, s.hash? tagsKey = some h → h.fields ≠ []

variable {n n' : Tally} {s : Store} {tag : Tag}

theorem keptIn_of_absent (h : s.hash? tagsKey = none) (n : Tally) : n.KeptIn s :=
  ⟨Store.lasting_of_hash?_eq_none h, by simp [h], by simp [h]⟩

theorem KeptIn.purge (h : n.KeptIn s) (now : Nat) : n.KeptIn (s.purge now) := by
  have e := Store.hash?_purge h.lasting now
  exact ⟨h.lasting.purge now, e ▸ h.rows, e ▸ h.ne_nil⟩

theorem KeptIn.delete (_ : n.KeptIn s) : n.KeptIn (s.delete tagsKey) :=
  keptIn_of_absent (by simp) n

theorem KeptIn.put (h : n.KeptIn s) {new : Hash} (hd : new.deadline = none)
    (hr : n'.Rows new.fields) (hn : new.fields ≠ []) : n'.KeptIn (s.put tagsKey new) := by
  refine ⟨h.lasting.put hd, fun a ha => ?_, fun a ha => ?_⟩ <;>
  · obtain rfl : new = a := by simpa using ha
    assumption

theorem keptIn_setAll (h : s.hash? tagsKey = none) (now : Nat) {rows : List (String × String)}
    (hr : n.Rows rows) : n.KeptIn (s.setAll now tagsKey rows none) := by
  have hk := (keptIn_of_absent h n).purge now
  have hp : (s.purge now).hash? tagsKey = none :=
    (Store.hash?_purge (Store.lasting_of_hash?_eq_none h) now).trans h
  unfold Store.setAll
  split_ifs with he
  · exact keptIn_of_absent h n
  · have hne : rows ≠ [] := by simpa using he
    simp only [hp, Option.getD_none, Assoc.setAll_nil hr.once]
    exact hk.put rfl hr hne

/-- The row of a tag, read as a counter, holds its number, unless no signed word holds that. -/
theorem Rows.counter_cases {rows : List (String × String)} (h : n.Rows rows) (tag : Tag) :
    Store.counter rows tag.cacheField = .ok (n tag : Int) ∨
      Text.signedBound ≤ n tag ∧ ∃ e, Store.counter rows tag.cacheField = .error e := by
  rw [Store.counter, h.lookup]
  by_cases ht : 0 < n tag
  · simp only [if_pos ht, Text.integer?_toString_eq]
    by_cases hb : n tag < Text.signedBound
    · simp [hb]
    · simp [hb, Nat.le_of_not_lt hb]
  · simp [Nat.eq_zero_of_not_pos ht]

theorem Rows.eq_of_counter {rows : List (String × String)} (h : n.Rows rows) {k : Int}
    (hc : Store.counter rows tag.cacheField = .ok k) : k = n tag := by
  obtain hk | ⟨-, e, he⟩ := h.counter_cases tag
  · exact Except.ok.inj (hc.symm.trans hk)
  · exact nomatch hc.symm.trans he

theorem toString_natCast (m : Nat) : toString (m : Int) = toString m := rfl

/-- The tally with one number moved, down to zero at most. -/
def shift (n : Tally) (tag : Tag) (delta : Int) : Tally :=
  Function.update n tag (n tag + delta).toNat

theorem shift_self (n : Tally) (tag : Tag) (delta : Int) :
    n.shift tag delta tag = (n tag + delta).toNat := Function.update_self ..

theorem shift_of_ne (n : Tally) (delta : Int) {t : Tag} (ht : t ≠ tag) :
    n.shift tag delta t = n t := Function.update_of_ne ht ..

/-- **What moving a count does.** An absent hash stays absent, a row beyond a signed word stays as it
is, and otherwise the tally kept moves. A hash that has vanished told nothing any more. -/
theorem KeptIn.adjust_cases (h : n.KeptIn s) (now : Nat) (tag : Tag) (delta : Int) :
    (s.hash? tagsKey = none ∧
      s.adjust now tagsKey tag.cacheField delta = (.ok none, s.purge now)) ∨
    (Text.signedBound ≤ n tag ∧
      ∃ e, s.adjust now tagsKey tag.cacheField delta = (.error e, s.purge now)) ∨
    ∃ k s', s.adjust now tagsKey tag.cacheField delta = (.ok (some k), s') ∧
      (n.shift tag delta).KeptIn s' ∧ (s'.hash? tagsKey = none → ∀ t, n.shift tag delta t = 0) := by
  have hp := h.purge now
  have hn : ∀ t ≠ tag, n.shift tag delta t = n t := fun t ht => n.shift_of_ne delta ht
  have hd := n.shift_self tag delta
  generalize n.shift tag delta = n' at hn hd ⊢
  have ha := Store.adjusts_adjust now s tagsKey tag.cacheField delta
  generalize s.adjust now tagsKey tag.cacheField delta = out at ha ⊢
  cases ha with
  | absent hk => exact .inl ⟨(Store.hash?_purge h.lasting now).symm.trans hk, rfl⟩
  | unread hk hc =>
    obtain hok | ⟨hb, -⟩ := (hp.rows _ hk).counter_cases tag
    · exact nomatch hok.symm.trans hc
    · exact .inr (.inl ⟨hb, _, rfl⟩)
  | raised hk hc hpos =>
    have hr := hp.rows _ hk
    have hlasting := hp.lasting.deadline hk
    obtain rfl := hr.eq_of_counter hc
    have hv : toString (n tag + delta) = toString (n' tag) := by
      rw [← toString_natCast, hd, Int.toNat_of_nonneg hpos.le]
    refine .inr (.inr ⟨_, _, rfl, ?_, by simp⟩)
    refine hp.put hlasting ?_ (Assoc.set_ne_nil _ _ _)
    rw [hv]
    exact hr.set hn (by omega)
  | removed hk hc hpos hne =>
    have hr := hp.rows _ hk
    have hlasting := hp.lasting.deadline hk
    obtain rfl := hr.eq_of_counter hc
    refine .inr (.inr ⟨_, _, rfl, ?_, by simp⟩)
    exact hp.put hlasting (hr.erase hn (by omega)) hne
  | emptied hk hc hpos hnil =>
    have hr := hp.rows _ hk
    obtain rfl := hr.eq_of_counter hc
    refine .inr (.inr ⟨_, _, rfl, keptIn_of_absent (by simp) n', fun _ t => ?_⟩)
    -- The hash has vanished with its last row.
    by_contra ht
    have hm := ((hr.erase hn (by omega)).mem_iff _).mpr ⟨t, Nat.pos_of_ne_zero ht, rfl⟩
    simp [hnil] at hm

/-- **A count and the tally kept move together.** -/
theorem KeptIn.adjust (h : n.KeptIn s) (now : Nat) {delta : Int} (hn : ∀ t ≠ tag, n' t = n t)
    (hd : (n' tag : Int) = n tag + delta) (hb : n tag < Text.signedBound) :
    (∃ r, (s.adjust now tagsKey tag.cacheField delta).1 = .ok r) ∧
      n'.KeptIn (s.adjust now tagsKey tag.cacheField delta).2 := by
  have hs : n.shift tag delta = n' := funext fun t => by
    by_cases ht : t = tag
    · subst ht
      rw [shift_self]
      omega
    · rw [shift_of_ne n delta ht, hn t ht]
  obtain ⟨ha, e⟩ | ⟨hb', -⟩ | ⟨k, s', e, hk, -⟩ := h.adjust_cases now tag delta
  · rw [e]
    exact ⟨⟨_, rfl⟩, (keptIn_of_absent ha n').purge now⟩
  · omega
  · rw [e]
    exact ⟨⟨_, rfl⟩, hs ▸ hk⟩

end DocSearch.Tally
