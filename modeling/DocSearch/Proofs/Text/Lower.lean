import Mathlib
import DocSearch.Proofs.Text.Blank
import DocSearch.Text.Lower
/-!
# The lowercase of a text

What the lowercase of a text can hold, read off the table of letter cases run by run.

* `LowerRun.Settles`: a run starts at no blank and leads to characters that are in lowercase and not
  blank; `settles_of_mem`: so do all runs of the table.
* `lowerChar_of_not_ascii`: which characters lead into ASCII, and **`prefix_lowerFrom_iff`**: how a word of
  ASCII starts the lowercase of a text.
* `IsLower`: a character that every lowercase leaves alone. `isLower_of_mem_lowerAt`: the lowercase
  of a character holds no other ones, and it is blank where that is.
* **`lower_lower`**: lowercase texts stay as they are, and by **`trim_lower_trim`** the lowercase of a
  trimmed text is trimmed.
-/

namespace DocSearch.Text

/-! ## The runs of the table -/

/-- No code point from `low` to `high` lies in one of the ranges. -/
def avoids (low high : Nat) (ranges : List (Nat × Nat)) : Bool :=
  ranges.all fun p => Nat.blt high p.1 || Nat.blt p.2 low

/-- The code points of blanks. -/
def blankRanges : List (Nat × Nat) := [(0x09, 0x0D), (0x20, 0x20), (0x85, 0x85), (0xA0, 0xA0),
  (0x1680, 0x1680), (0x2000, 0x200A), (0x2028, 0x2029), (0x202F, 0x202F), (0x205F, 0x205F),
  (0x3000, 0x3000)]

/-- The capitals of ASCII, the dotted capital I, and what is no character. -/
def unfitRanges : List (Nat × Nat) := [(0x41, 0x5A), (0x130, 0x130), (0xD800, 0xDFFF)]

namespace LowerRun

/-- The lowercase of the first code point. -/
def low (r : LowerRun) : Nat := (r.first + r.shift).toNat

/-- The lowercase of the last one. -/
def high (r : LowerRun) : Nat := (r.last + r.shift).toNat

/-- The run leads to no code point of the other one: the one ends before the other starts, or the
steps of both are two, and those of the one lie between those of the other. -/
def misses (r r' : LowerRun) : Bool :=
  Nat.blt r.high r'.first || Nat.blt r'.last r.low ||
    (r'.step == 2 && (r.step == 2 || r.low == r.high) && r.low % 2 != r'.first % 2)

/-- The run starts at no blank, and leads to characters that are in lowercase and not blank. -/
structure Settles (r : LowerRun) : Prop where
  positive : 0 ≤ (r.first : Int) + r.shift
  bounded : r.high < 0x110000
  fit : avoids r.low r.high unfitRanges = true
  plain : avoids r.low r.high blankRanges = true
  unblank : avoids r.first r.last blankRanges = true
  misses : lowerRuns.all r.misses = true

instance (r : LowerRun) : Decidable r.Settles :=
  decidable_of_iff (0 ≤ (r.first : Int) + r.shift ∧ r.high < 0x110000 ∧
    avoids r.low r.high unfitRanges = true ∧ avoids r.low r.high blankRanges = true ∧
    avoids r.first r.last blankRanges = true ∧ lowerRuns.all r.misses = true)
    ⟨fun ⟨h₁, h₂, h₃, h₄, h₅, h₆⟩ => ⟨h₁, h₂, h₃, h₄, h₅, h₆⟩,
      fun ⟨h₁, h₂, h₃, h₄, h₅, h₆⟩ => ⟨h₁, h₂, h₃, h₄, h₅, h₆⟩⟩

theorem settles_of_mem : ∀ r ∈ lowerRuns, r.Settles := by
  decide +kernel

theorem contains_iff {r : LowerRun} {n : Nat} :
    r.contains n = true ↔ r.first ≤ n ∧ n ≤ r.last ∧ (n - r.first) % r.step = 0 := by
  simp [contains, and_assoc]

theorem not_contains_of_misses {r r' : LowerRun} {n : Nat} (hp : 0 ≤ (r.first : Int) + r.shift)
    (h : r.misses r' = true) (hn : r.contains n = true) :
    r'.contains (n + r.shift).toNat = false := by
  rw [contains_iff] at hn
  obtain ⟨hfirst, hlast, hstep⟩ := hn
  have hlow : r.low ≤ (n + r.shift).toNat := by unfold low; omega
  have hhigh : (n + r.shift).toNat ≤ r.high := by unfold high; omega
  rw [Bool.eq_false_iff, ne_eq, contains_iff]
  rintro ⟨hfirst', hlast', hstep'⟩
  simp only [misses, Bool.or_eq_true, Bool.and_eq_true, bne_iff_ne, beq_iff_eq, Nat.blt_eq] at h
  obtain (h | h) | ⟨⟨htwo', htwo⟩, hodd⟩ := h
  · omega
  · omega
  · rw [htwo'] at hstep'
    have hparity : (n + r.shift).toNat % 2 = r.low % 2 := by
      rcases htwo with htwo | hone
      · rw [htwo] at hstep
        unfold low
        omega
      · omega
    omega

/-- One run alone leads into ASCII: the Kelvin sign is set in lowercase as a `k`. -/
theorem ascii_of_mem : ∀ r ∈ lowerRuns, 0x80 ≤ r.low ∨ r.low = 'k'.toNat ∧ r.high = 'k'.toNat := by
  decide +kernel

end LowerRun

theorem not_mem_of_avoids {low high n : Nat} {ranges : List (Nat × Nat)}
    (h : avoids low high ranges = true) (hl : low ≤ n) (hh : n ≤ high) :
    ranges.any (inRange n) = false := by
  rw [List.any_eq_false]
  intro p hp
  have := List.all_eq_true.mp h p hp
  simp only [Bool.or_eq_true, Nat.blt_eq] at this
  simp only [inRange, Bool.and_eq_true, decide_eq_true_eq]
  omega

theorem isBlank_eq_any (c : Char) : isBlank c = blankRanges.any (inRange c.toNat) := by
  rw [Bool.eq_iff_iff]
  simp only [isBlank, blankRanges, inRange, List.any_cons, List.any_nil, Bool.or_eq_true,
    Bool.and_eq_true, decide_eq_true_eq, beq_iff_eq, Bool.false_eq_true, or_false]
  omega

/-! ## Single characters -/

/-- Every lowercase leaves the character alone. -/
def IsLower (c : Char) : Prop := c ≠ 'İ' ∧ c ≠ 'Σ' ∧ lowerChar c = c

instance (c : Char) : Decidable (IsLower c) := inferInstanceAs (Decidable (_ ∧ _ ∧ _))

theorem ascii_lowerChar : ∀ n < 0x80, IsLower (lowerChar (Char.ofNat n)) ∧
    isBlank (lowerChar (Char.ofNat n)) = isBlank (Char.ofNat n) := by
  decide

theorem isLower_of_ascii {c : Char} (h : c.toNat < 0x80) (hc : c.toNat < 0x41 ∨ 0x5A < c.toNat) :
    IsLower c := by
  have hall : ∀ n < 0x80, n < 0x41 ∨ 0x5A < n → IsLower (Char.ofNat n) := by decide
  simpa using hall c.toNat h hc

theorem toNat_lt_of_toLower {c : Char} (h : c.toLower.toNat < 0x80) : c.toNat < 0x80 := by
  unfold Char.toLower at h
  split at h
  · rename_i hcapital
    have hz : c.toNat ≤ 'Z'.toNat := UInt32.le_iff_toNat_le.mp hcapital.2
    have hlast : 'Z'.toNat < 0x80 := by decide
    omega
  · exact h

theorem lowerAt_of_ascii {c : Char} (h : c.toNat < 0x80) (before after : List Char) :
    lowerAt before c after = [c.toLower] := by
  have hi : c ≠ 'İ' := by
    rintro rfl
    exact absurd h (by decide)
  have hs : c ≠ 'Σ' := by
    rintro rfl
    exact absurd h (by decide)
  rw [lowerAt, if_neg hi, if_neg hs, lowerChar, if_pos h]

theorem isLower_of_not_contains {c : Char} (h : 0x80 ≤ c.toNat) (hi : c ≠ 'İ')
    (hr : ∀ r ∈ lowerRuns, r.contains c.toNat = false) : IsLower c := by
  have hfind : lowerRuns.find? (·.contains c.toNat) = none :=
    List.find?_eq_none.mpr fun r hm => by simp [hr r hm]
  refine ⟨hi, ?_, ?_⟩
  · rintro rfl
    exact absurd hr (by decide)
  · rw [lowerChar, if_neg (by omega), hfind]

theorem toNat_of_run {r : LowerRun} (hr : r ∈ lowerRuns) {n : Nat} (hn : r.contains n = true) :
    r.low ≤ (n + r.shift).toNat ∧ (n + r.shift).toNat ≤ r.high ∧
      (Char.ofNat (n + r.shift).toNat).toNat = (n + r.shift).toNat := by
  have hs := LowerRun.settles_of_mem r hr
  obtain ⟨hfirst, hlast, -⟩ := LowerRun.contains_iff.mp hn
  have hlow : r.low ≤ (n + r.shift).toNat := by unfold LowerRun.low; omega
  have hhigh : (n + r.shift).toNat ≤ r.high := by unfold LowerRun.high; omega
  have hunfit := not_mem_of_avoids hs.fit hlow hhigh
  simp only [unfitRanges, inRange, List.any_cons, List.any_nil, Bool.or_false,
    Bool.or_eq_false_iff, Bool.and_eq_false_iff, decide_eq_false_iff_not] at hunfit
  have hvalid : (n + r.shift).toNat.isValidChar := by
    have := hs.bounded
    unfold Nat.isValidChar
    omega
  exact ⟨hlow, hhigh, by rw [Char.toNat_ofNat, if_pos hvalid]⟩

theorem isLower_of_run {r : LowerRun} (hr : r ∈ lowerRuns) {c : Char}
    (hc : r.contains c.toNat = true) :
    IsLower (Char.ofNat (c.toNat + r.shift).toNat) ∧ isBlank c = false ∧
      isBlank (Char.ofNat (c.toNat + r.shift).toNat) = false := by
  have hs := LowerRun.settles_of_mem r hr
  obtain ⟨hfirst, hlast, -⟩ := LowerRun.contains_iff.mp hc
  obtain ⟨hlow, hhigh, hn⟩ := toNat_of_run hr hc
  have hmiss : ∀ r' ∈ lowerRuns, r'.contains (c.toNat + r.shift).toNat = false := fun r' hr' =>
    LowerRun.not_contains_of_misses hs.positive (List.all_eq_true.mp hs.misses r' hr') hc
  generalize (c.toNat + r.shift).toNat = n at hlow hhigh hn hmiss ⊢
  have hunfit := not_mem_of_avoids hs.fit hlow hhigh
  simp only [unfitRanges, inRange, List.any_cons, List.any_nil, Bool.or_false,
    Bool.or_eq_false_iff, Bool.and_eq_false_iff, decide_eq_false_iff_not] at hunfit
  refine ⟨?_, ?_, ?_⟩
  · by_cases ha : n < 0x80
    · exact isLower_of_ascii (by omega) (by omega)
    · refine isLower_of_not_contains (by omega) ?_ (by rwa [hn])
      intro hi
      have : n = 0x130 := by rw [← hn, hi]; rfl
      omega
  · rw [isBlank_eq_any]
    exact not_mem_of_avoids hs.unblank hfirst hlast
  · rw [isBlank_eq_any, hn]
    exact not_mem_of_avoids hs.plain hlow hhigh

/-- **Outside ASCII only the Kelvin sign leads into ASCII**, as far as single characters do. -/
theorem lowerChar_of_not_ascii {c : Char} (h : 0x80 ≤ c.toNat) :
    lowerChar c = 'k' ∨ 0x80 ≤ (lowerChar c).toNat := by
  rw [lowerChar, if_neg (by omega)]
  cases hf : lowerRuns.find? (·.contains c.toNat) with
  | none => exact .inr h
  | some r =>
    have hr := List.mem_of_find?_eq_some hf
    have hc : r.contains c.toNat = true := by simpa using List.find?_some hf
    obtain ⟨hlow, hhigh, hn⟩ := toNat_of_run hr hc
    dsimp only
    rcases LowerRun.ascii_of_mem r hr with hout | ⟨hk, hk'⟩
    · exact .inr (by omega)
    · refine .inl (Char.toNat_inj.mp ?_)
      omega

theorem isLower_lowerChar {c : Char} (hi : c ≠ 'İ') :
    IsLower (lowerChar c) ∧ isBlank (lowerChar c) = isBlank c := by
  by_cases h : c.toNat < 0x80
  · simpa using ascii_lowerChar c.toNat h
  · cases hf : lowerRuns.find? (·.contains c.toNat) with
    | some r =>
      have hl : lowerChar c = Char.ofNat (c.toNat + r.shift).toNat := by
        rw [lowerChar, if_neg h, hf]
      have hc : r.contains c.toNat = true := by simpa using List.find?_some hf
      obtain ⟨hlower, hc, hd⟩ := isLower_of_run (List.mem_of_find?_eq_some hf) hc
      rw [hl]
      exact ⟨hlower, hd.trans hc.symm⟩
    | none =>
      have hr : ∀ r ∈ lowerRuns, r.contains c.toNat = false := fun r hm => by
        simpa using List.find?_eq_none.mp hf r hm
      have hc := isLower_of_not_contains (Nat.le_of_not_lt h) hi hr
      rw [hc.2.2]
      exact ⟨hc, rfl⟩

theorem lowerAt_of_not_ascii {c : Char} (h : 0x80 ≤ c.toNat) (before after : List Char) :
    lowerAt before c after = ['i', '\u0307'] ∨
      ∃ d, lowerAt before c after = [d] ∧ (d = 'k' ∨ 0x80 ≤ d.toNat) := by
  unfold lowerAt
  split_ifs
  · exact .inl rfl
  · exact .inr ⟨_, rfl, .inr (by decide)⟩
  · exact .inr ⟨_, rfl, .inr (by decide)⟩
  · exact .inr ⟨_, rfl, lowerChar_of_not_ascii h⟩

theorem isLower_of_mem_lowerAt {before after : List Char} {c d : Char}
    (h : d ∈ lowerAt before c after) : IsLower d ∧ isBlank d = isBlank c := by
  unfold lowerAt at h
  split_ifs at h with hi hs hend
  · subst hi
    rcases List.mem_cons.mp h with rfl | h
    · decide
    · rw [List.mem_singleton.mp h]
      decide +kernel
  · rw [List.mem_singleton.mp h, hs]
    decide +kernel
  · rw [List.mem_singleton.mp h, hs]
    decide +kernel
  · rw [List.mem_singleton.mp h]
    exact isLower_lowerChar hi

theorem lowerAt_ne_nil (before : List Char) (c : Char) (after : List Char) :
    lowerAt before c after ≠ [] := by
  unfold lowerAt
  split_ifs <;> simp

/-! ## Whole texts -/

theorem isLower_of_mem_lowerFrom {before cs : List Char} {d : Char}
    (h : d ∈ lowerFrom before cs) : IsLower d := by
  induction cs generalizing before with
  | nil => simp [lowerFrom] at h
  | cons c cs ih =>
    rcases List.mem_append.mp h with h | h
    · exact (isLower_of_mem_lowerAt h).1
    · exact ih h

theorem lowerFrom_append_of_isLower {cs : List Char} (h : ∀ c ∈ cs, IsLower c)
    (before after : List Char) :
    lowerFrom before (cs ++ after) = cs ++ lowerFrom (cs.reverse ++ before) after := by
  induction cs generalizing before with
  | nil => rfl
  | cons c cs ih =>
    obtain ⟨hi, hs, hc⟩ := h c List.mem_cons_self
    rw [List.cons_append, lowerFrom, lowerAt, if_neg hi, if_neg hs, hc,
      ih (fun d hd => h d (List.mem_cons_of_mem _ hd)), List.singleton_append, List.reverse_cons,
      List.append_assoc, List.singleton_append, List.cons_append]

theorem lowerFrom_of_isLower {cs : List Char} (h : ∀ c ∈ cs, IsLower c) (before : List Char) :
    lowerFrom before cs = cs := by
  have ha := lowerFrom_append_of_isLower h before []
  rwa [List.append_nil, lowerFrom, List.append_nil] at ha

theorem lower_of_isLower {s : String} (h : ∀ c ∈ s.toList, IsLower c) : lower s = s := by
  rw [lower, lowerChars, lowerFrom_of_isLower h, String.ofList_toList]

theorem isLower_of_mem_lower {s : String} : ∀ c ∈ (lower s).toList, IsLower c := by
  intro c hc
  rw [lower, String.toList_ofList] at hc
  exact isLower_of_mem_lowerFrom hc

theorem lowerFrom_of_ascii {cs : List Char} (h : ∀ c ∈ cs, c.toNat < 0x80) (before : List Char) :
    lowerFrom before cs = cs.map Char.toLower := by
  induction cs generalizing before with
  | nil => rfl
  | cons c cs ih =>
    rw [lowerFrom, lowerAt_of_ascii (h c List.mem_cons_self), List.map_cons,
      ih (fun d hd => h d (List.mem_cons_of_mem _ hd)), List.singleton_append]

/-- **A word of ASCII starts the lowercase of a text exactly when it starts the text itself**, up to the
case of letters of ASCII. The word holds no `k`, which the Kelvin sign leads to, and does not end with
an `i`, which the dotted capital I starts with. -/
theorem prefix_lowerFrom_iff {word : List Char} (hw : ∀ a ∈ word, a.toNat < 0x80 ∧ a ≠ 'k')
    (hi : word.getLast? ≠ some 'i') (before cs : List Char) :
    word <+: lowerFrom before cs ↔ word <+: cs.map Char.toLower := by
  induction word generalizing before cs with
  | nil => simp
  | cons a word ih =>
    cases cs with
    | nil => simp [lowerFrom]
    | cons c cs =>
      obtain ⟨⟨hascii, hk⟩, hword⟩ := List.forall_mem_cons.mp hw
      rw [lowerFrom, List.map_cons]
      by_cases hc : c.toNat < 0x80
      · have hi' : word.getLast? ≠ some 'i' := by
          intro h
          apply hi
          rw [List.getLast?_cons, h]
          rfl
        rw [lowerAt_of_ascii hc, List.singleton_append, List.cons_prefix_cons, List.cons_prefix_cons,
          ih hword hi']
      -- Neither the lowercase nor the text itself goes on with the letter.
      · have hne : c.toLower ≠ a := by
          rintro rfl
          exact hc (toNat_lt_of_toLower hascii)
        have hright : ¬ a :: word <+: c.toLower :: cs.map Char.toLower := fun h =>
          hne (List.cons_prefix_cons.mp h).1.symm
        refine iff_of_false (fun h => ?_) hright
        rcases lowerAt_of_not_ascii (Nat.le_of_not_lt hc) before cs with he | ⟨d, he, hd⟩
        · rw [he, List.cons_append, List.cons_prefix_cons] at h
          obtain ⟨rfl, h⟩ := h
          cases word with
          | nil => exact hi rfl
          | cons b word =>
            rw [List.cons_append, List.cons_prefix_cons] at h
            exact absurd (hword b List.mem_cons_self).1 (by rw [h.1]; decide)
        · rw [he, List.cons_append, List.cons_prefix_cons] at h
          obtain ⟨rfl, -⟩ := h
          rcases hd with rfl | hd
          · exact hk rfl
          · omega

/-- No blank is lost: what has a lowercase without blanks has none itself. -/
theorem isBlank_of_lowerFrom {before cs : List Char}
    (h : ∀ d ∈ lowerFrom before cs, isBlank d = false) : ∀ c ∈ cs, isBlank c = false := by
  induction cs generalizing before with
  | nil => simp
  | cons c cs ih =>
    rw [lowerFrom] at h
    obtain ⟨hfirst, hrest⟩ := List.forall_mem_append.mp h
    obtain ⟨d, hd⟩ := List.exists_mem_of_ne_nil _ (lowerAt_ne_nil before c cs)
    refine List.forall_mem_cons.mpr ⟨?_, ih hrest⟩
    rw [← (isLower_of_mem_lowerAt hd).2]
    exact hfirst d hd

/-- **The lowercase of a text is in lowercase.** -/
theorem lower_lower (s : String) : lower (lower s) = lower s :=
  lower_of_isLower isLower_of_mem_lower

/-! ## Blanks at the ends -/

theorem lowerFrom_concat (before cs : List Char) (c : Char) :
    ∃ ds, lowerFrom before (cs ++ [c]) = ds ++ lowerAt (cs.reverse ++ before) c [] := by
  induction cs generalizing before with
  | nil => exact ⟨[], by simp [lowerFrom]⟩
  | cons a cs ih =>
    obtain ⟨ds, h⟩ := ih (a :: before)
    refine ⟨lowerAt before a (cs ++ [c]) ++ ds, ?_⟩
    rw [List.cons_append, lowerFrom, h, List.append_assoc, List.reverse_cons, List.append_assoc,
      List.singleton_append]

theorem trimChars_lowerChars {cs : List Char} (h : trimChars cs = cs) :
    trimChars (lowerChars cs) = lowerChars cs := by
  rw [trimChars_eq_self_iff] at h ⊢
  obtain ⟨hhead, hlast⟩ := h
  constructor
  · intro d hd
    cases cs with
    | nil => simp [lowerChars, lowerFrom] at hd
    | cons c cs =>
      have hne := lowerAt_ne_nil [] c cs
      rw [lowerChars, lowerFrom, List.head?_append_of_ne_nil _ hne] at hd
      rw [(isLower_of_mem_lowerAt (List.mem_of_mem_head? hd)).2]
      exact hhead c rfl
  · intro d hd
    rcases List.eq_nil_or_concat cs with rfl | ⟨cs, c, rfl⟩
    · simp [lowerChars, lowerFrom] at hd
    · obtain ⟨ds, he⟩ := lowerFrom_concat [] cs c
      have hne := lowerAt_ne_nil (cs.reverse ++ []) c []
      rw [List.concat_eq_append] at hlast hd
      rw [lowerChars, he, List.getLast?_append_of_ne_nil _ hne] at hd
      rw [(isLower_of_mem_lowerAt (List.mem_of_mem_getLast? hd)).2]
      exact hlast c List.getLast?_concat

theorem trim_lower_trim (s : String) : trim (lower (trim s)) = lower (trim s) := by
  have h : trimChars (trim s).toList = (trim s).toList := by
    rw [trim, String.toList_ofList, trimChars_trimChars]
  rw [lower, trim, String.toList_ofList, trimChars_lowerChars h]

end DocSearch.Text
