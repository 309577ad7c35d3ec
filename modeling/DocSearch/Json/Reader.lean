import DocSearch.Json.Form
/-!
# Reading records from JSON

A record is read from an object or from an array of its fields in order.

* `Reader α` — reads a form as an `α`, or refuses it.
* `Record` — the fields of a record by name.
* `Record.required`, `Record.optional`, `Record.defaulted` — a field that must be there, one that
  may be missing or `null`, and one that has a default when missing.

In an object a field that the record does not know is passed over, and a known one may stand once
only. In an array only defaulted fields at the end may be missing, and there may be no more items
than fields.
-/

namespace DocSearch

/-- Reads a form, or refuses it. -/
abbrev Reader (α : Type) := Form → Option α

namespace Reader

/-- A string. -/
def text : Reader String
  | .str s => some s
  | _ => none

/-- A truth value. -/
def bool : Reader Bool
  | .bool b => some b
  | _ => none

/-- A whole number that an unsigned word of 64 bits holds. -/
def word : Reader Nat
  | .num (.int n) => if 0 ≤ n ∧ n < Text.wordBound then some n.toNat else none
  | _ => none

/-- A whole number that a signed word of 64 bits holds. -/
def integer : Reader Int
  | .num (.int n) => if -(Text.signedBound : Int) ≤ n ∧ n < Text.signedBound then some n else none
  | _ => none

/-- Any number, whole ones rounded to binary64. -/
def real : Reader Binary64
  | .num (.int n) => some (.ofInt n)
  | .num (.real x) => some x
  | _ => none

/-- Any value. -/
def value : Reader Json := Form.value?

/-- The value, or nothing where `null` stands. -/
def nullable {α : Type} (read : Reader α) : Reader (Option α)
  | .null => some none
  | f => (read f).map some

/-- An array, all of whose items can be read. -/
def list {α : Type} (read : Reader α) : Reader (List α)
  | .arr items => items.mapM read
  | _ => none

/-- An object as a list ordered by names, all of whose values can be read. -/
def table {α : Type} (read : Reader α) : Reader (List (String × α))
  | .obj fields => (fields.mapM fun f => (read f.2).map fun a => (f.1, a)).map orderFields
  | _ => none

end Reader

/-- The fields of a record by name. In `positional` records, read from an array, no field but a
defaulted one may be missing. -/
structure Record where
  fields : List (String × Form)
  positional : Bool

/-- No name is known twice. -/
def knownOnce {α : Type} (names : List String) (fields : List (String × α)) : Bool :=
  names.all fun name => (fields.filter (·.1 = name)).length ≤ 1

/-- The form as a record with the fields `names`. -/
def Form.record? (names : List String) : Form → Option Record
  | .obj fields => if knownOnce names fields then some ⟨fields, false⟩ else none
  | .arr items => if items.length ≤ names.length then some ⟨names.zip items, true⟩ else none
  | _ => none

namespace Record

/-- The form of a field. -/
def find (r : Record) (name : String) : Option Form := r.fields.lookup name

/-- A field that must be there. -/
def required {α : Type} (r : Record) (name : String) (read : Reader α) : Option α :=
  (r.find name).bind read

/-- A field that may be `null`, and missing from an object. -/
def optional {α : Type} (r : Record) (name : String) (read : Reader α) : Option (Option α) :=
  match r.find name with
  | some f => Reader.nullable read f
  | none => if r.positional then none else some none

/-- A field with a value for the case that it is missing. -/
def defaulted {α : Type} (r : Record) (name : String) (default : α) (read : Reader α) : Option α :=
  match r.find name with
  | some f => read f
  | none => some default

end Record

end DocSearch
