import DocSearch.Binary64.Basic
import DocSearch.Text.Numeral
/-!
# JSON values

* `Json` — a JSON value. Whole numbers of 64 bits are kept exactly, all other numbers as binary64.
* `Json.put` — sets a field. The fields of an object stand in the order of their names, each name
  once.
* `Json.field` — the value of a field, `null` where there is none.
-/

namespace DocSearch

/-- A number of a JSON text: a whole one that a word of 64 bits holds, or any other. -/
inductive JsonNumber where
  | int (n : Int)
  | real (x : Binary64)
deriving DecidableEq, Repr, Inhabited

/-- A JSON value. -/
inductive Json where
  | null
  | bool (b : Bool)
  | num (n : JsonNumber)
  | str (s : String)
  | arr (items : List Json)
  | obj (fields : List (String × Json))
deriving Repr, Inhabited

/-- Sets the value of a name in a list ordered by names. -/
def putField {α : Type} (name : String) (value : α) : List (String × α) → List (String × α)
  | [] => [(name, value)]
  | (n, v) :: fields =>
    if name = n then (name, value) :: fields
    else if name < n then (name, value) :: (n, v) :: fields
    else (n, v) :: putField name value fields

/-- The list ordered by names; of two values of one name the later one stays. -/
def orderFields {α : Type} (fields : List (String × α)) : List (String × α) :=
  fields.foldl (fun acc f => putField f.1 f.2 acc) []

namespace Json

/-- A natural number. -/
def nat (n : Nat) : Json := .num (.int n)

/-- A text, or `null`. -/
def ofText? : Option String → Json
  | some s => .str s
  | none => .null

/-- A list of texts. -/
def texts (items : List String) : Json := .arr (items.map .str)

/-- A number of the binary format. -/
def real (x : Binary64) : Json := .num (.real x)

/-- The value, or `null`. -/
def ofOption {α : Type} (write : α → Json) : Option α → Json
  | some a => write a
  | none => .null

/-- A field with a value, unless that is absent. -/
def fieldOf (name : String) (value : Option Json) : List (String × Json) :=
  match value with
  | some v => [(name, v)]
  | none => []

/-- An array, absent when it is empty. -/
def nonEmpty? (items : List Json) : Option Json :=
  if items.isEmpty then none else some (.arr items)

/-- The value is `null`. -/
def isNull : Json → Bool
  | .null => true
  | _ => false

/-- Sets a field of an object; other values are left alone. -/
def put (name : String) (value : Json) : Json → Json
  | .obj fields => .obj (putField name value fields)
  | other => other

/-- The value of a field, absent from anything but an object. -/
def field? (name : String) : Json → Option Json
  | .obj fields => fields.lookup name
  | _ => none

/-- The value of a field, `null` where there is none. -/
def field (name : String) (j : Json) : Json := (j.field? name).getD .null

/-- The items of an array. -/
def items? : Json → Option (List Json)
  | .arr xs => some xs
  | _ => none

/-- The text of a string. -/
def text? : Json → Option String
  | .str s => some s
  | _ => none

/-- The value of a whole number that an unsigned word of 64 bits holds. -/
def word? : Json → Option Nat
  | .num (.int n) => if 0 ≤ n ∧ n < Text.wordBound then some n.toNat else none
  | _ => none

end Json

end DocSearch
