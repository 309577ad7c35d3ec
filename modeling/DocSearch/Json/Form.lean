import DocSearch.Json.Basic
/-!
# Forms: JSON texts read, but not yet understood

A reader that looks for certain fields skips all others, and what it skips has to be well formed
but need not hold a value: a number may lie outside every range, a string may denote no text, a
nesting may be deeper than the limit.

* `Form` — a well-formed JSON text as a tree, with `Form.unreadable` for what holds no value.
* `Form.value?` — the value, when all parts hold one.
* `Json.toForm` — a value as a form; reading it gives the value back.
-/

namespace DocSearch

/-- A well-formed JSON text. The fields of an object stand as they were written. -/
inductive Form where
  | unreadable
  | null
  | bool (b : Bool)
  | num (n : JsonNumber)
  | str (s : String)
  | arr (items : List Form)
  | obj (fields : List (String × Form))
deriving Repr, Inhabited

mutual

/-- The value, absent as soon as one part is unreadable. -/
def Form.value? : Form → Option Json
  | .unreadable => none
  | .null => some .null
  | .bool b => some (.bool b)
  | .num n => some (.num n)
  | .str s => some (.str s)
  | .arr items => (Form.values? items).map .arr
  | .obj fields => (Form.fieldValues? fields).map fun fs => .obj (orderFields fs)

/-- The values of the items of an array. -/
def Form.values? : List Form → Option (List Json)
  | [] => some []
  | f :: fs =>
    match f.value?, Form.values? fs with
    | some v, some vs => some (v :: vs)
    | _, _ => none

/-- The values of the fields of an object. -/
def Form.fieldValues? : List (String × Form) → Option (List (String × Json))
  | [] => some []
  | (name, f) :: fs =>
    match f.value?, Form.fieldValues? fs with
    | some v, some vs => some ((name, v) :: vs)
    | _, _ => none

end

mutual

/-- The value as a form. -/
def Json.toForm : Json → Form
  | .null => .null
  | .bool b => .bool b
  | .num n => .num n
  | .str s => .str s
  | .arr items => .arr (Json.itemForms items)
  | .obj fields => .obj (Json.fieldForms fields)

/-- The items of an array as forms. -/
def Json.itemForms : List Json → List Form
  | [] => []
  | x :: xs => x.toForm :: Json.itemForms xs

/-- The fields of an object as forms. -/
def Json.fieldForms : List (String × Json) → List (String × Form)
  | [] => []
  | (name, x) :: fs => (name, x.toForm) :: Json.fieldForms fs

end

end DocSearch
