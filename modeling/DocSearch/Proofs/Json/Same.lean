import Mathlib
import DocSearch.Json.Basic
/-!
# Equality of JSON values

Arrays and objects hold values again, so two values are compared along their nesting.

* `Json.same`: the comparison; **`same_iff`**: it is equality, which is decidable by it.
-/

namespace DocSearch.Json

mutual

/-- The same shape with the same parts. -/
def same : Json → Json → Bool
  | .null, .null => true
  | .bool a, .bool b => a == b
  | .num a, .num b => decide (a = b)
  | .str a, .str b => decide (a = b)
  | .arr as, .arr bs => sameItems as bs
  | .obj as, .obj bs => sameFields as bs
  | _, _ => false

/-- The same items in the same places. -/
def sameItems : List Json → List Json → Bool
  | [], [] => true
  | a :: as, b :: bs => same a b && sameItems as bs
  | _, _ => false

/-- The same fields in the same places. -/
def sameFields : List (String × Json) → List (String × Json) → Bool
  | [], [] => true
  | (n, a) :: as, (m, b) :: bs => decide (n = m) && same a b && sameFields as bs
  | _, _ => false

end

mutual

/-- **Two values are the same exactly when they are equal.** -/
theorem same_iff : ∀ a b : Json, same a b = true ↔ a = b
  | .arr as, b => by cases b <;> simp [same, sameItems_iff as]
  | .obj as, b => by cases b <;> simp [same, sameFields_iff as]
  | .null, b | .bool _, b | .num _, b | .str _, b => by cases b <;> simp [same]

theorem sameItems_iff : ∀ as bs : List Json, sameItems as bs = true ↔ as = bs
  | [], bs => by cases bs <;> simp [sameItems]
  | a :: as, bs => by cases bs <;> simp [sameItems, same_iff a, sameItems_iff as]

theorem sameFields_iff : ∀ as bs : List (String × Json), sameFields as bs = true ↔ as = bs
  | [], bs => by cases bs <;> simp [sameFields]
  | (n, a) :: as, bs => by
    rcases bs with _ | ⟨⟨m, b⟩, bs⟩ <;> simp [sameFields, same_iff a, sameFields_iff as]

end

instance : DecidableEq Json := fun a b => decidable_of_iff _ (same_iff a b)

end DocSearch.Json
