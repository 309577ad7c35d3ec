/-!
# Ranges of code points

* `Text.inRange` — a closed range holds a code point. A set of characters is a list of ranges.
-/

namespace DocSearch.Text

/-- The closed range of code points holds `n`. -/
def inRange (n : Nat) (r : Nat × Nat) : Bool := r.1 ≤ n && n ≤ r.2

end DocSearch.Text
