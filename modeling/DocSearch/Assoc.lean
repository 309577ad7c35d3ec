/-!
# Lists of keys with values

A list of pairs in which every key stands once, in the order in which keys were first set. `List.lookup`
is its view.

* `Assoc.set` — gives a key a value, in its place or at the end.
* `Assoc.erase` — removes a key.
-/

namespace DocSearch.Assoc

variable {κ α : Type} [BEq κ]

/-- Gives the key a value: in its place, or at the end when it is new. -/
def set (key : κ) (value : α) : List (κ × α) → List (κ × α)
  | [] => [(key, value)]
  | (k, v) :: rest => if key == k then (k, value) :: rest else (k, v) :: set key value rest

/-- Removes the key. -/
def erase (key : κ) (pairs : List (κ × α)) : List (κ × α) := pairs.filter fun p => !(key == p.1)

/-- Sets all pairs in order. -/
def setAll (news : List (κ × α)) (pairs : List (κ × α)) : List (κ × α) :=
  news.foldl (fun acc p => set p.1 p.2 acc) pairs

end DocSearch.Assoc
