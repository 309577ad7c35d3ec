import Mathlib
import DocSearch.Request.Clause
/-!
# What clauses mean

* `Document`: fields with values, and parts under paths.
* `Matching`: how the backend matches words and patterns and orders times. Nothing is assumed of it.
* `Clause.Holds`: a document satisfies a clause. `SearchRequest.Matches`: it is a hit of a request.
* **`atLeast_iff`**, `holds_bool`, `holds_anyOf`: what the alternatives of a clause come to.
-/

namespace DocSearch

/-- A document. -/
inductive Document where
  | mk (fields : String → Option Json) (parts : String → List Document)

namespace Document

/-- The value of a field. -/
def field : Document → String → Option Json
  | mk fields _ => fields

/-- The parts under a path. -/
def parts : Document → String → List Document
  | mk _ parts => parts

end Document

/-! ## Orders -/

namespace JsonNumber

/-- The number in units of the least positive one of the binary format. -/
def units : JsonNumber → Int
  | int n => n * Binary64.unitsPerOne
  | real x => if x.isNegative then -x.units else x.units

/-- Numbers of both kinds by their values. -/
instance : LE JsonNumber := ⟨fun a b => a.units ≤ b.units⟩

theorem le_def {a b : JsonNumber} : a ≤ b ↔ a.units ≤ b.units := Iff.rfl

theorem int_le_int {a b : Int} : int a ≤ int b ↔ a ≤ b := by
  have hp : ∀ k, 0 < Nat.pow 2 k := Nat.two_pow_pos
  have h : (0 : Int) < Binary64.unitsPerOne := by
    unfold Binary64.unitsPerOne
    apply Int.natCast_pos.mpr
    apply hp
  rw [le_def, units, units]
  exact mul_le_mul_iff_left₀ h

theorem le_total (a b : JsonNumber) : a ≤ b ∨ b ≤ a := Int.le_total a.units b.units

end JsonNumber

/-- How the backend matches words and patterns, and which times it takes to be no later than which.
Any predicates will do. -/
structure Matching where
  /-- The field holds the words of the text. -/
  fullText : String → String → Document → Prop
  /-- The field matches the pattern. -/
  wildcard : String → String → Document → Prop
  /-- Some of the fields hold what the text says. -/
  simpleQuery : String → List String → Document → Prop
  notAfter : Json → Json → Prop

namespace Matching

variable (M : Matching)

/-- One value lies below the other or is equal: numbers by their values, others as times. -/
def Le : Json → Json → Prop
  | .num a, .num b => a ≤ b
  | a, b => M.notAfter a b

/-- The value lies within the bound. -/
def Within : Bound → Json → Prop
  | .gte a, v => M.Le a v
  | .lte b, v => M.Le v b
  | .lt b, v => M.Le v b ∧ ¬ M.Le b v

end Matching

/-! ## Clauses -/

namespace Clause

/-- How many of the alternatives must hold: what is written, or one if nothing else is asked for. -/
def leastOf (must should : List Clause) (least : Option Nat) : Nat :=
  least.getD (if must.isEmpty && !should.isEmpty then 1 else 0)

mutual

/-- The document satisfies the clause. -/
def Holds (M : Matching) : Clause → Document → Prop
  | term field value, d => d.field field = some value
  | fullText field text, d => M.fullText field text d
  | wildcard field pattern, d => M.wildcard field pattern d
  | range field bound, d => ∃ v, d.field field = some v ∧ M.Within bound v
  | simpleQuery text fields, d => M.simpleQuery text fields d
  | nested path inner, d => ∃ part ∈ d.parts path, Holds M inner part
  | bool must should mustNot least, d =>
    AllHold M must d ∧ NoneHolds M mustNot d ∧ AtLeast M should (leastOf must should least) d

/-- Every clause holds. -/
def AllHold (M : Matching) : List Clause → Document → Prop
  | [], _ => True
  | c :: cs, d => Holds M c d ∧ AllHold M cs d

/-- No clause holds. -/
def NoneHolds (M : Matching) : List Clause → Document → Prop
  | [], _ => True
  | c :: cs, d => ¬ Holds M c d ∧ NoneHolds M cs d

/-- At least that many of the clauses hold. -/
def AtLeast (M : Matching) : List Clause → Nat → Document → Prop
  | _, 0, _ => True
  | [], _ + 1, _ => False
  | c :: cs, n + 1, d => Holds M c d ∧ AtLeast M cs n d ∨ AtLeast M cs (n + 1) d

end

variable {M : Matching} {d : Document}

theorem allHold_iff {cs : List Clause} : AllHold M cs d ↔ ∀ c ∈ cs, c.Holds M d := by
  induction cs with
  | nil => simp [AllHold]
  | cons c cs ih => rw [AllHold, ih, List.forall_mem_cons]

theorem noneHolds_iff {cs : List Clause} : NoneHolds M cs d ↔ ∀ c ∈ cs, ¬ c.Holds M d := by
  induction cs with
  | nil => simp [NoneHolds]
  | cons c cs ih => rw [NoneHolds, ih, List.forall_mem_cons]

/-- **At least `n` of some clauses hold when `n` of them, at different places, all hold.** -/
theorem atLeast_iff {cs : List Clause} {n : Nat} :
    AtLeast M cs n d ↔ ∃ sub : List Clause, sub.Sublist cs ∧ sub.length = n ∧ ∀ c ∈ sub, c.Holds M d := by
  induction cs generalizing n with
  | nil =>
    cases n with
    | zero => simp [AtLeast]
    | succ n => simp [AtLeast]
  | cons c cs ih =>
    cases n with
    | zero => simp [AtLeast]
    | succ n =>
      rw [AtLeast, ih, ih]
      constructor
      · rintro (⟨hc, sub, hs, hn, h⟩ | ⟨sub, hs, hn, h⟩)
        · exact ⟨c :: sub, hs.cons_cons c, by rw [List.length_cons, hn],
            List.forall_mem_cons.mpr ⟨hc, h⟩⟩
        · exact ⟨sub, hs.cons c, hn, h⟩
      · rintro ⟨sub, hs, hn, h⟩
        cases hs with
        | cons _ hs => exact .inr ⟨sub, hs, hn, h⟩
        | cons_cons _ hs =>
          have h := List.forall_mem_cons.mp h
          exact .inl ⟨h.1, _, hs, Nat.succ.inj hn, h.2⟩

theorem atLeast_one {cs : List Clause} : AtLeast M cs 1 d ↔ ∃ c ∈ cs, c.Holds M d := by
  rw [atLeast_iff]
  constructor
  · rintro ⟨sub, hs, hn, h⟩
    obtain ⟨c, rfl⟩ := List.length_eq_one_iff.mp hn
    exact ⟨c, hs.subset List.mem_cons_self, h c List.mem_cons_self⟩
  · rintro ⟨c, hc, h⟩
    exact ⟨[c], List.singleton_sublist.mpr hc, rfl, by simpa using h⟩

/-- All of some clauses and none of others, nothing else being asked for. -/
theorem holds_bool {must mustNot : List Clause} {least : Option Nat} (h : least.getD 0 = 0) :
    (bool must [] mustNot least).Holds M d ↔
      (∀ c ∈ must, c.Holds M d) ∧ ∀ c ∈ mustNot, ¬ c.Holds M d := by
  have hl : leastOf must [] least = 0 := by simpa [leastOf] using h
  rw [Holds, hl, allHold_iff, noneHolds_iff]
  simp [AtLeast]

theorem holds_anyOf {cs : List Clause} : (anyOf cs).Holds M d ↔ ∃ c ∈ cs, c.Holds M d := by
  rw [anyOf, Holds, leastOf, Option.getD_some, atLeast_one]
  simp [AllHold, NoneHolds]

end Clause

/-! ## Requests -/

/-- The document is a hit of the request. Without a query, everything is. -/
def SearchRequest.Matches (M : Matching) (r : SearchRequest) (d : Document) : Prop :=
  ∀ c, r.query = some c → c.Holds M d

end DocSearch
