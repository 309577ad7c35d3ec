import Mathlib
import DocSearch.Request.Clause
/-!
# What the JSON of a clause tells

The name of the only field tells the shape of a clause, and the value under it the parts. A part that is
left out tells that it is absent.

* `Json.fieldOf_append_inj`: a field that may be left out is told apart from the fields behind it, as
  long as none of these has its name.
  **`Json.flatMap_fieldOf_inj`**: so a row of such fields tells each of them.
* `Json.nonEmpty?_inj`: a list that is left out when it is empty is told, too.
* **`Clause.toJson_eq_iff`**: different clauses are written as different JSON.
-/

namespace DocSearch

namespace Json

theorem fieldOf_append_inj {name : String} {a b : Option Json} {fs gs : List (String × Json)}
    (hf : ∀ p ∈ fs, p.1 ≠ name) (hg : ∀ p ∈ gs, p.1 ≠ name) :
    fieldOf name a ++ fs = fieldOf name b ++ gs ↔ a = b ∧ fs = gs := by
  cases a with
  | none =>
    cases b with
    | none => simp [fieldOf]
    | some w =>
      simp only [fieldOf, List.nil_append, reduceCtorEq, false_and, iff_false]
      rintro rfl
      exact hf (name, w) List.mem_cons_self rfl
  | some v =>
    cases b with
    | none =>
      simp only [fieldOf, List.nil_append, reduceCtorEq, false_and, iff_false]
      rintro rfl
      exact hg (name, v) List.mem_cons_self rfl
    | some w => simp [fieldOf]

theorem eq_of_mem_fieldOf {name : String} {a : Option Json} {p : String × Json}
    (h : p ∈ fieldOf name a) : p.1 = name := by
  cases a with
  | none => simp [fieldOf] at h
  | some v => rw [List.mem_singleton.mp h]

/-- **Fields that may be left out are told apart by their names.** -/
theorem flatMap_fieldOf_inj {ps qs : List (String × Option Json)}
    (hn : ps.map Prod.fst = qs.map Prod.fst) (hd : (ps.map Prod.fst).Nodup) :
    (ps.flatMap fun p => fieldOf p.1 p.2) = (qs.flatMap fun q => fieldOf q.1 q.2) ↔ ps = qs := by
  induction ps generalizing qs with
  | nil =>
    cases qs with
    | nil => simp
    | cons q qs => simp at hn
  | cons p ps ih =>
    cases qs with
    | nil => simp at hn
    | cons q qs =>
      obtain ⟨name, a⟩ := p
      obtain ⟨name', b⟩ := q
      obtain ⟨rfl, hns⟩ := List.cons.inj hn
      obtain ⟨hname, hd⟩ := List.nodup_cons.mp hd
      have hne : ∀ {l : List (String × Option Json)}, name ∉ l.map Prod.fst →
          ∀ f ∈ l.flatMap fun p => fieldOf p.1 p.2, f.1 ≠ name := by
        rintro l hl f hf rfl
        obtain ⟨p, hp, hfp⟩ := List.mem_flatMap.mp hf
        exact hl (eq_of_mem_fieldOf hfp ▸ List.mem_map_of_mem hp)
      rw [List.flatMap_cons, List.flatMap_cons,
        fieldOf_append_inj (hne hname) (hne (hns ▸ hname)), ih hns hd]
      simp

theorem nonEmpty?_inj {as bs : List Json} : nonEmpty? as = nonEmpty? bs ↔ as = bs := by
  cases as <;> cases bs <;> simp [nonEmpty?]

end Json

theorem Bound.toJson_inj {a b : Bound} : a.toJson = b.toJson ↔ a = b := by
  cases a <;> cases b <;> simp [toJson]

namespace Clause

/-- The parts of a combination by their names, absent where they are left out. -/
def parts (must should mustNot : List Json) (least : Option Nat) : List (String × Option Json) :=
  [("minimum_should_match", least.map .nat), ("must", Json.nonEmpty? must),
    ("must_not", Json.nonEmpty? mustNot), ("should", Json.nonEmpty? should)]

theorem toJson_bool (must should mustNot : List Clause) (least : Option Nat) :
    (bool must should mustNot least).toJson =
      .obj [("bool", .obj ((parts (toJsons must) (toJsons should) (toJsons mustNot) least).flatMap
        fun p => Json.fieldOf p.1 p.2))] := by
  simp [toJson, parts]

theorem parts_inj {must must' should should' mustNot mustNot' : List Json}
    {least least' : Option Nat} :
    ((parts must should mustNot least).flatMap fun p => Json.fieldOf p.1 p.2) =
      ((parts must' should' mustNot' least').flatMap fun p => Json.fieldOf p.1 p.2) ↔
    must = must' ∧ should = should' ∧ mustNot = mustNot' ∧ least = least' := by
  have hnat : Function.Injective Json.nat := fun m n h => by simpa [Json.nat] using h
  have hnames : (parts must should mustNot least).map Prod.fst =
      (parts must' should' mustNot' least').map Prod.fst := rfl
  rw [Json.flatMap_fieldOf_inj hnames (by simp [parts])]
  simp only [parts, List.cons.injEq, Prod.mk.injEq, true_and, and_true, Json.nonEmpty?_inj,
    (Option.map_injective hnat).eq_iff]
  tauto

mutual

/-- The shape is told by the name, the parts by what stands under it. -/
theorem eq_of_toJson_eq : ∀ a b : Clause, a.toJson = b.toJson → a = b
  | term field value, b, h => by
    cases b <;> simp_all [toJson]
  | fullText field text, b, h => by
    cases b <;> simp_all [toJson]
  | wildcard field pattern, b, h => by
    cases b <;> simp_all [toJson]
  | range field bound, b, h => by
    cases b <;> simp_all [toJson, Bound.toJson_inj]
  | simpleQuery text fields, b, h => by
    have hstr : Function.Injective Json.str := fun s t h => Json.str.inj h
    cases b <;> simp_all [toJson, Json.texts, (List.map_injective_iff.mpr hstr).eq_iff]
  | nested path inner, b, h => by
    cases b with
    | nested path' inner' =>
      have ih := eq_of_toJson_eq inner inner'
      simp_all [toJson]
    | _ => simp [toJson] at h
  | bool must should mustNot least, b, h => by
    cases b with
    | bool must' should' mustNot' least' =>
      simp only [toJson_bool, Json.obj.injEq, List.cons.injEq, Prod.mk.injEq, true_and, and_true] at h
      obtain ⟨hmust, hshould, hnot, rfl⟩ := parts_inj.mp h
      rw [eq_of_toJsons_eq must must' hmust, eq_of_toJsons_eq mustNot mustNot' hnot,
        eq_of_toJsons_eq should should' hshould]
    | _ => simp [toJson] at h

theorem eq_of_toJsons_eq : ∀ as bs : List Clause, toJsons as = toJsons bs → as = bs
  | [], bs, h => by
    cases bs with
    | nil => rfl
    | cons b bs => simp [toJsons] at h
  | a :: as, bs, h => by
    cases bs with
    | nil => simp [toJsons] at h
    | cons b bs =>
      obtain ⟨ha, has⟩ := List.cons.inj h
      rw [eq_of_toJson_eq a b ha, eq_of_toJsons_eq as bs has]

end

/-- **Different clauses are written as different JSON.** -/
theorem toJson_eq_iff (a b : Clause) : a.toJson = b.toJson ↔ a = b :=
  ⟨eq_of_toJson_eq a b, congrArg toJson⟩

end Clause

end DocSearch
