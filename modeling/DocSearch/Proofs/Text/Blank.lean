import Mathlib
import DocSearch.Text.Blank
/-!
# Trimming

* **`trimChars_pad`**: characters that are not blank are what is left of them when blanks are put
  around them.
* `trimChars_eq_self_iff`: a text is trimmed when there is no blank at either end; **`trimChars_trimChars`**:
  what is left by trimming is.
-/

namespace DocSearch.Text

theorem isBlank_eq_false {c : Char} (h : 0x21 ≤ c.toNat) (h' : c.toNat < 0x85) :
    isBlank c = false := by
  simp only [isBlank, Bool.or_eq_false_iff, Bool.and_eq_false_iff, decide_eq_false_iff_not,
    beq_eq_false_iff_ne]
  omega

theorem dropWhile_blank_of_forall {cs : List Char} (h : ∀ c ∈ cs, isBlank c = false) :
    cs.dropWhile isBlank = cs := by
  cases cs with
  | nil => rfl
  | cons c cs => rw [List.dropWhile_cons_of_neg (by simp [h c List.mem_cons_self])]

theorem trimChars_pad {ws ws' cs : List Char} (hw : ∀ c ∈ ws, isBlank c = true)
    (hw' : ∀ c ∈ ws', isBlank c = true) (h : ∀ c ∈ cs, isBlank c = false) :
    trimChars (ws ++ cs ++ ws') = cs := by
  have hr : cs.reverse.dropWhile isBlank = cs.reverse :=
    dropWhile_blank_of_forall fun c hc => h c (List.mem_reverse.mp hc)
  unfold trimChars dropEnd
  rw [List.append_assoc, List.dropWhile_append_of_pos hw]
  cases cs with
  | nil => rw [List.nil_append, List.dropWhile_eq_nil_iff.mpr hw']; rfl
  | cons c cs =>
    rw [List.cons_append, List.dropWhile_cons_of_neg (by simp [h c List.mem_cons_self]),
      ← List.cons_append, List.reverse_append,
      List.dropWhile_append_of_pos fun a ha => hw' a (List.mem_reverse.mp ha), hr,
      List.reverse_reverse]

theorem trimChars_eq_self {cs : List Char} (h : ∀ c ∈ cs, isBlank c = false) :
    trimChars cs = cs := by
  have ht : trimChars ([] ++ cs ++ []) = cs := trimChars_pad (by simp) (by simp) h
  rwa [List.nil_append, List.append_nil] at ht

theorem trim_eq_self {s : String} (h : ∀ c ∈ s.toList, isBlank c = false) : trim s = s := by
  rw [trim, trimChars_eq_self h, String.ofList_toList]

/-! ## Both ends -/

theorem trimChars_eq_rdropWhile (cs : List Char) :
    trimChars cs = (cs.dropWhile isBlank).rdropWhile isBlank := rfl

theorem mem_of_mem_trimChars {cs : List Char} {c : Char} (h : c ∈ trimChars cs) : c ∈ cs :=
  (List.dropWhile_suffix isBlank).subset ((List.rdropWhile_prefix isBlank _).subset h)

theorem trimChars_eq_self_iff {cs : List Char} :
    trimChars cs = cs ↔
      (∀ c ∈ cs.head?, isBlank c = false) ∧ ∀ c ∈ cs.getLast?, isBlank c = false := by
  rw [trimChars_eq_rdropWhile]
  constructor
  · intro h
    have hlen := (List.rdropWhile_prefix isBlank (cs.dropWhile isBlank)).length_le
    rw [h] at hlen
    have hd : cs.dropWhile isBlank = cs := (List.dropWhile_suffix isBlank).eq_of_length_le hlen
    rw [hd, List.rdropWhile_eq_self_iff] at h
    refine ⟨fun c hc => ?_, fun c hc => ?_⟩
    · have := List.head?_dropWhile_not isBlank cs
      rw [hd, Option.mem_def.mp hc] at this
      simpa using this
    · obtain ⟨hne, rfl⟩ := List.mem_getLast?_eq_getLast hc
      simpa using h hne
  · rintro ⟨hh, hl⟩
    have hd : cs.dropWhile isBlank = cs := by
      cases cs with
      | nil => rfl
      | cons c cs => exact List.dropWhile_cons_of_neg (by simp [hh c rfl])
    rw [hd, List.rdropWhile_eq_self_iff]
    intro hne
    simpa using hl _ (List.getLast?_eq_getLast_of_ne_nil hne)

/-- **What is left by trimming is trimmed.** -/
theorem trimChars_trimChars (cs : List Char) : trimChars (trimChars cs) = trimChars cs := by
  rw [trimChars_eq_self_iff]
  constructor
  · intro c hc
    have hd := List.head?_dropWhile_not isBlank cs
    obtain ⟨ds, hds⟩ := List.rdropWhile_prefix isBlank (cs.dropWhile isBlank)
    rw [← trimChars_eq_rdropWhile] at hds
    rw [← hds, List.head?_append, Option.mem_def.mp hc] at hd
    simpa using hd
  · intro c hc
    obtain ⟨hne, rfl⟩ := List.mem_getLast?_eq_getLast hc
    exact Bool.eq_false_iff.mpr (List.rdropWhile_last_not isBlank (cs.dropWhile isBlank) hne)

end DocSearch.Text
