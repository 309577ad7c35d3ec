import Mathlib
import DocSearch.Proofs.Text.Lower
import DocSearch.Proofs.Text.Numeral
import DocSearch.Tag
/-!
# Names of tags, rows of the cache, and the order of counts

* `Tag.IsNormal`: a name is not empty, trimmed, in lowercase, and without a space. **`isNormal_iff`**:
  such a tag is made of its own name again.
* `TagCount.IsRow`: what a row of the cache says; **`TagCount.ofRow?_eq_some_iff`**: that is read from it.
  `TagCount.ofRow?_cacheField`: the row of a tag and a positive number is read back as it was written,
  whatever the name; hence `Tag.cacheField_injective`. `TagCount.toRow_eq`: such rows are written.
* `TagCount.Before`: more files first, then the type, then the name. It is a strict total order
  (`before_trans`, `before_total`), so `TagCount.NotAfter` is a total one, and
  **`TagCount.pairwise_notAfter_sort`** puts counts into it.
-/

namespace DocSearch

/-! ## Names -/

namespace Tag

/-- The name is as names of tags are kept. -/
structure IsNormal (t : Tag) : Prop where
  nonempty : t.name ≠ ""
  trimmed : Text.trim t.name = t.name
  lowered : Text.lower t.name = t.name
  unspaced : ' ' ∉ t.name.toList

theorem make_eq_ok_iff {type : TagType} {text : String} {t : Tag} :
    make type text = .ok t ↔
      t = ⟨type, Text.lower (Text.trim text)⟩ ∧ t.name ≠ "" ∧ ' ' ∉ t.name.toList := by
  unfold make
  dsimp only
  constructor
  · intro h
    split_ifs at h with he hs
    cases h
    exact ⟨rfl, he, hs⟩
  · rintro ⟨rfl, he, hs⟩
    rw [if_neg he, if_neg hs]

theorem isNormal_of_make {type : TagType} {text : String} {t : Tag} (h : make type text = .ok t) :
    t.IsNormal := by
  obtain ⟨rfl, he, hs⟩ := make_eq_ok_iff.mp h
  exact ⟨he, Text.trim_lower_trim text, Text.lower_lower _, hs⟩

theorem ofTexts_eq_ok_iff {type name : String} {allowed : List TagType} {t : Tag} :
    ofTexts type name allowed = .ok t ↔
      TagType.parse type = .ok t.type ∧ t.type ∈ allowed ∧ make t.type name = .ok t := by
  unfold ofTexts
  cases hp : TagType.parse type with
  | error e => simp
  | ok type' =>
    dsimp only
    constructor
    · intro h
      split_ifs at h with ha
      have ht : t.type = type' := congrArg Tag.type (make_eq_ok_iff.mp h).1
      rw [ht]
      exact ⟨rfl, ha, h⟩
    · rintro ⟨he, ha, h⟩
      rw [Except.ok.inj he, if_pos ha, h]

/-- **A tag is made of its own name where the name is normal.** -/
theorem isNormal_iff {t : Tag} : t.IsNormal ↔ make t.type t.name = .ok t := by
  constructor
  · intro h
    rw [make_eq_ok_iff, h.trimmed, h.lowered]
    exact ⟨rfl, h.nonempty, h.unspaced⟩
  · exact isNormal_of_make

end Tag

/-! ## Rows -/

theorem TagType.ofName?_eq_some_iff {s : String} {t : TagType} : ofName? s = some t ↔ s = t.name := by
  unfold ofName?
  split_ifs with ha hs hm
  · subst ha
    cases t <;> decide
  · subst hs
    cases t <;> decide
  · subst hm
    cases t <;> decide
  · cases t <;> simp_all [name]

/-- A type is read where the text is its name, in any case and with blanks around it. -/
theorem TagType.parse_eq_ok_iff {s : String} {t : TagType} :
    parse s = .ok t ↔ Text.lower (Text.trim s) = t.name := by
  rw [← ofName?_eq_some_iff, parse]
  split <;> simp_all

theorem TagType.space_not_mem_name (t : TagType) : ' ' ∉ t.name.toList := by
  cases t <;> decide

namespace TagCount

theorem splitAtSpace?_eq_some_iff {cs a b : List Char} :
    splitAtSpace? cs = some (a, b) ↔ ' ' ∉ a ∧ cs = a ++ ' ' :: b := by
  induction cs generalizing a with
  | nil => simp [splitAtSpace?]
  | cons c cs ih =>
    rw [splitAtSpace?]
    split_ifs with hc
    · subst hc
      cases a with
      | nil => simp [eq_comm]
      | cons d a =>
        simp only [Option.some.injEq, Prod.mk.injEq, reduceCtorEq, false_and, List.mem_cons, not_or,
          List.cons_append, List.cons.injEq, false_iff, not_and]
        exact fun h hd => absurd hd h.1
    · rw [Option.map_eq_some_iff]
      constructor
      · rintro ⟨⟨a', b'⟩, h, he⟩
        cases he
        obtain ⟨hmem, rfl⟩ := ih.mp h
        exact ⟨by simp [hmem, Ne.symm hc], rfl⟩
      · rintro ⟨hmem, he⟩
        cases a with
        | nil => exact absurd (List.cons.inj he).1 hc
        | cons d a =>
          obtain ⟨rfl, rfl⟩ := List.cons.inj he
          exact ⟨(a, b), ih.mpr ⟨List.not_mem_of_not_mem_cons hmem, rfl⟩, rfl⟩

/-- A row of the cache says the count: the name of the type, in any case and with blanks around it, a
space and the name as it stands; and a positive numeral that a signed word holds. -/
structure IsRow (c : TagCount) (field value : String) : Prop where
  field : ∃ type, ' ' ∉ type.toList ∧ Text.lower (Text.trim type) = c.type.name ∧
    field = type ++ " " ++ c.name
  value : Text.IsNumeral (Text.trim value) c.files
  bound : c.files < Text.signedBound
  positive : 0 < c.files

/-- **A row is read as the count that it says.** -/
theorem ofRow?_eq_some_iff {field value : String} {c : TagCount} :
    ofRow? field value = some c ↔ c.IsRow field value := by
  unfold ofRow?
  simp only [Option.bind_eq_bind, Option.bind_eq_some_iff, Prod.exists, splitAtSpace?_eq_some_iff]
  constructor
  · rintro ⟨a, b, ⟨hspace, hfield⟩, type, htype, n, hn, hc⟩
    split_ifs at hc with hpos
    cases hc
    obtain ⟨m, rfl⟩ := Int.eq_ofNat_of_zero_le (by omega : 0 ≤ n)
    have hm : 0 < m := by omega
    obtain ⟨hnumeral, hbound⟩ := (Text.integer?_eq_natCast_iff hm).mp hn
    have hparse : TagType.parse (.ofList a) = .ok type := by
      cases hp : TagType.parse (.ofList a) <;> simp_all [Except.toOption]
    refine ⟨⟨.ofList a, by simpa using hspace, TagType.parse_eq_ok_iff.mp hparse, ?_⟩, hnumeral,
      hbound, hm⟩
    apply String.toList_injective
    simp [hfield]
  · rintro ⟨⟨type, hspace, hname, rfl⟩, hnumeral, hbound, hpos⟩
    refine ⟨type.toList, c.name.toList, ⟨hspace, by simp⟩, c.type, ?_, (c.files : Int),
      (Text.integer?_eq_natCast_iff hpos).mpr ⟨hnumeral, hbound⟩, ?_⟩
    · rw [String.ofList_toList, TagType.parse_eq_ok_iff.mpr hname]
      rfl
    · rw [if_neg (by omega)]
      simp

instance (c : TagCount) (field value : String) : Decidable (c.IsRow field value) :=
  decidable_of_iff _ ofRow?_eq_some_iff

/-- **The row of a tag is read back as it was written.** -/
theorem ofRow?_cacheField (t : Tag) {n : Nat} (hn : 0 < n) (hb : n < Text.signedBound) :
    ofRow? t.cacheField (toString n) = some ⟨t.name, t.type, n⟩ := by
  have hlower : Text.lower (Text.trim t.type.name) = t.type.name := by cases t.type <;> rfl
  refine ofRow?_eq_some_iff.mpr ⟨⟨t.type.name, t.type.space_not_mem_name, hlower, rfl⟩, ?_, hb, hn⟩
  rw [Text.trim_toString]
  exact ((Text.integer?_eq_natCast_iff hn).mp (Text.integer?_toString hb)).1

theorem toRow_eq (c : TagCount) : c.toRow = (c.tag.cacheField, toString c.files) := rfl

end TagCount

theorem Tag.cacheField_injective {a b : Tag} (h : a.cacheField = b.cacheField) : a = b := by
  have ha := TagCount.ofRow?_cacheField a Nat.one_pos (by decide)
  have hb := TagCount.ofRow?_cacheField b Nat.one_pos (by decide)
  rw [h, hb] at ha
  cases a
  cases b
  simp_all

/-! ## The order of counts -/

namespace TagCount

/-- More files come first, then the lower type, then the lower name. -/
def Before (a b : TagCount) : Prop :=
  b.files < a.files ∨ a.files = b.files ∧
    (a.type.rank < b.type.rank ∨ a.type = b.type ∧ a.name < b.name)

theorem rank_injective {s t : TagType} (h : s.rank = t.rank) : s = t := by
  cases s <;> cases t <;> simp_all [TagType.rank]

theorem before_irrefl (a : TagCount) : ¬ a.Before a := by
  simp [Before]

theorem before_trans {a b c : TagCount} (h : a.Before b) (h' : b.Before c) : a.Before c := by
  unfold Before at *
  rcases h with h | ⟨hf, h⟩
  · left; omega
  rcases h' with h' | ⟨hf', h'⟩
  · left; omega
  refine .inr ⟨hf.trans hf', ?_⟩
  rcases h with h | ⟨ht, h⟩ <;> rcases h' with h' | ⟨ht', h'⟩
  · left; omega
  · left; rwa [← ht']
  · left; rwa [ht]
  · exact .inr ⟨ht.trans ht', h.trans h'⟩

theorem before_total (a b : TagCount) : a = b ∨ a.Before b ∨ b.Before a := by
  unfold Before
  rcases Nat.lt_trichotomy a.files b.files with hf | hf | hf
  · exact .inr (.inr (.inl hf))
  · rcases Nat.lt_trichotomy a.type.rank b.type.rank with hr | hr | hr
    · exact .inr (.inl (.inr ⟨hf, .inl hr⟩))
    · have ht := rank_injective hr
      rcases lt_trichotomy a.name b.name with hn | hn | hn
      · exact .inr (.inl (.inr ⟨hf, .inr ⟨ht, hn⟩⟩))
      · cases a
        cases b
        simp_all
      · exact .inr (.inr (.inr ⟨hf.symm, .inr ⟨ht.symm, hn⟩⟩))
    · exact .inr (.inr (.inr ⟨hf.symm, .inl hr⟩))
  · exact .inr (.inl (.inl hf))

theorem before_asymm {a b : TagCount} (h : a.Before b) : ¬ b.Before a := fun h' =>
  before_irrefl a (before_trans h h')

theorem precedes_iff_not_before {a b : TagCount} : precedes a b = true ↔ ¬ b.Before a := by
  unfold precedes Before
  split_ifs with hf ht
  · rw [decide_eq_true_eq]
    omega
  · have hr : a.type.rank ≠ b.type.rank := fun h => ht (rank_injective h)
    have ht' : ¬ b.type = a.type := fun h => ht h.symm
    rw [decide_eq_true_eq]
    simp only [ht', false_and, or_false]
    omega
  · push Not at hf ht
    rw [decide_eq_true_eq]
    simp only [hf, ht, lt_irrefl, true_and, false_or]
    exact not_lt.symm

/-- The one count is the other one or stands before it. -/
def NotAfter (a b : TagCount) : Prop := a = b ∨ a.Before b

theorem precedes_iff {a b : TagCount} : precedes a b = true ↔ a.NotAfter b := by
  rw [precedes_iff_not_before]
  constructor
  · intro h
    rcases before_total a b with e | h' | h'
    · exact .inl e
    · exact .inr h'
    · exact absurd h' h
  · rintro (rfl | h)
    · exact before_irrefl a
    · exact before_asymm h

/-- **The order of counts is total**: no two different counts tie. -/
instance : IsLinearOrder TagCount NotAfter where
  refl a := .inl rfl
  trans a b c hab hbc := by
    rcases hab with rfl | hab
    · exact hbc
    rcases hbc with rfl | hbc
    · exact .inr hab
    · exact .inr (before_trans hab hbc)
  antisymm a b hab hba := by
    rcases hab with rfl | hab
    · rfl
    rcases hba with rfl | hba
    · rfl
    · exact absurd hba (before_asymm hab)
  total a b := by
    rcases before_total a b with h | h | h
    · exact .inl (.inl h)
    · exact .inl (.inr h)
    · exact .inr (.inr h)

theorem sort_perm (l : List TagCount) : (sort l).Perm l := List.mergeSort_perm l precedes

theorem mem_sort {c : TagCount} {l : List TagCount} : c ∈ sort l ↔ c ∈ l := (sort_perm l).mem_iff

/-- **Sorting puts counts into their order.** -/
theorem pairwise_notAfter_sort (l : List TagCount) : (sort l).Pairwise NotAfter := by
  have h : (sort l).Pairwise fun a b => precedes a b := List.pairwise_mergeSort
    (fun a b c => by
      simp only [precedes_iff]
      exact trans_of NotAfter)
    (fun a b => by
      rw [Bool.or_eq_true, precedes_iff, precedes_iff]
      exact total_of NotAfter a b) l
  exact h.imp precedes_iff.mp

theorem pairwise_sort {l : List TagCount} (h : l.Nodup) : (sort l).Pairwise Before :=
  ((pairwise_notAfter_sort l).and ((sort_perm l).nodup_iff.mpr h)).imp fun hab =>
    hab.1.resolve_left hab.2

end TagCount

end DocSearch
