import Mathlib
import DocSearch.Proofs.Json.NumberText
/-!
# Values read back from their texts

* `Json.reread`: the form as which the text of a value is read. Texts and truth values are read as
  they are, numbers as `Json.numberForm`; what is nested too deeply is unreadable.
* `Form.scan_bracket`, `Form.scanItems_comma`, `Form.scanFields_comma`: arrays and objects, part by part.
* **`Form.parse?_render`**: a value is read back from its text.
-/

namespace DocSearch

namespace Json

mutual

/-- The form as which the text of a value is read, with room for so many levels. -/
def reread (room : Nat) : Json → Form
  | .null => .null
  | .bool b => .bool b
  | .num v => numberForm v
  | .str s => .str s
  | .arr items => .within room (.arr (rereadItems (room - 1) items))
  | .obj fields => .within room (.obj (rereadFields (room - 1) fields))

/-- The forms of the items of an array. -/
def rereadItems (room : Nat) : List Json → List Form
  | [] => []
  | x :: xs => x.reread room :: rereadItems room xs

/-- The forms of the fields of an object. -/
def rereadFields (room : Nat) : List (String × Json) → List (String × Form)
  | [] => []
  | (name, x) :: fields => (name, x.reread room) :: rereadFields room fields

end

theorem rereadFields_eq_map (room : Nat) (fields : List (String × Json)) :
    rereadFields room fields = fields.map fun f => (f.1, f.2.reread room) := by
  induction fields with
  | nil => rfl
  | cons f fields ih => rw [rereadFields, ih, List.map_cons]

/-! ## The bytes of a text -/

theorem bytes_comma : Text.bytes "," = [0x2C] := by rw [Text.bytes_eq_flatMap]; rfl

theorem bytes_colon : Text.bytes ":" = [0x3A] := by rw [Text.bytes_eq_flatMap]; rfl

theorem bytes_arr (items : List Json) :
    Text.bytes (Json.arr items).render = 0x5B :: (Text.bytes (renderItems items) ++ [0x5D]) := by
  have hopen : Text.bytes "[" = [0x5B] := by rw [Text.bytes_eq_flatMap]; rfl
  have hclose : Text.bytes "]" = [0x5D] := by rw [Text.bytes_eq_flatMap]; rfl
  rw [render, Text.bytes_append, Text.bytes_append, hopen, hclose]
  rfl

theorem bytes_obj (fields : List (String × Json)) :
    Text.bytes (Json.obj fields).render = 0x7B :: (Text.bytes (renderFields fields) ++ [0x7D]) := by
  have hopen : Text.bytes "\x7b" = [0x7B] := by rw [Text.bytes_eq_flatMap]; rfl
  have hclose : Text.bytes "\x7d" = [0x7D] := by rw [Text.bytes_eq_flatMap]; rfl
  rw [render, Text.bytes_append, Text.bytes_append, hopen, hclose]
  rfl

theorem bytes_items_cons (x y : Json) (xs : List Json) :
    Text.bytes (renderItems (x :: y :: xs)) =
      Text.bytes x.render ++ 0x2C :: Text.bytes (renderItems (y :: xs)) := by
  rw [renderItems, Text.bytes_append, Text.bytes_append, bytes_comma, List.append_assoc]
  · rfl
  · exact List.cons_ne_nil y xs

theorem bytes_field (name : String) (x : Json) :
    Text.bytes (renderFields [(name, x)]) =
      Text.bytes (quote name) ++ 0x3A :: Text.bytes x.render := by
  rw [renderFields, Text.bytes_append, Text.bytes_append, bytes_colon, List.append_assoc]
  rfl

theorem bytes_fields_cons (name : String) (x : Json) (f : String × Json)
    (fields : List (String × Json)) :
    Text.bytes (renderFields ((name, x) :: f :: fields)) =
      Text.bytes (quote name) ++ 0x3A :: (Text.bytes x.render ++
        0x2C :: Text.bytes (renderFields (f :: fields))) := by
  rw [renderFields]
  · simp only [Text.bytes_append, bytes_colon, bytes_comma, List.append_assoc, List.cons_append,
      List.nil_append]
  · exact List.cons_ne_nil f fields

theorem exists_first (j : Json) : ∃ b bs, Text.bytes j.render = b :: bs ∧ b ≠ 0x5D ∧
    (b = 0x20 || b = 0x0A || b = 0x0D || b = 0x09 : Bool) = false := by
  cases j with
  | null => exact ⟨0x6E, _, by rw [render, Text.bytes_eq_flatMap]; rfl, by decide, by decide⟩
  | bool b =>
    cases b with
    | true => exact ⟨0x74, _, by rw [render, Text.bytes_eq_flatMap]; rfl, by decide, by decide⟩
    | false => exact ⟨0x66, _, by rw [render, Text.bytes_eq_flatMap]; rfl, by decide, by decide⟩
  | str s => exact ⟨0x22, _, by rw [render, bytes_quote]; rfl, by decide, by decide⟩
  | arr items => exact ⟨0x5B, _, bytes_arr items, by decide, by decide⟩
  | obj fields => exact ⟨0x7B, _, bytes_obj fields, by decide, by decide⟩
  | num v =>
    obtain ⟨b, bs, hbytes, hb⟩ := exists_first_number v
    refine ⟨b, bs, hbytes, ?_⟩
    rcases hb with rfl | hb
    · decide
    · exact ⟨ne_of_isDigitByte hb (by decide), not_blank_of_isDigitByte hb⟩

theorem exists_first_items (x : Json) (xs : List Json) :
    ∃ b bs, Text.bytes (renderItems (x :: xs)) = b :: bs ∧ b ≠ 0x5D ∧
      (b = 0x20 || b = 0x0A || b = 0x0D || b = 0x09 : Bool) = false := by
  obtain ⟨b, bs, hbytes, hb, hblank⟩ := exists_first x
  cases xs with
  | nil => exact ⟨b, bs, by rw [renderItems, hbytes], hb, hblank⟩
  | cons y ys => exact ⟨b, _, by rw [bytes_items_cons, hbytes]; rfl, hb, hblank⟩

theorem exists_quote_fields (f : String × Json) (fields : List (String × Json)) :
    ∃ bs, Text.bytes (renderFields (f :: fields)) = 0x22 :: bs := by
  obtain ⟨name, x⟩ := f
  cases fields with
  | nil => exact ⟨_, by rw [bytes_field, bytes_quote]; rfl⟩
  | cons g fields => exact ⟨_, by rw [bytes_fields_cons, bytes_quote]; rfl⟩

theorem exists_fuel (j : Json) {fuel : Nat} (h : 2 * (Text.bytes j.render).length ≤ fuel) :
    ∃ n, fuel = n + 1 := by
  obtain ⟨b, bs, hbytes, -⟩ := exists_first j
  rw [hbytes, List.length_cons] at h
  exact ⟨fuel - 1, by omega⟩

/-- What follows a part of a larger value ends it. -/
theorem stops_cons {b : UInt8} (h : b = 0x2C ∨ b = 0x5D ∨ b = 0x7D) (rest : List UInt8) :
    Stops (b :: rest) := by
  refine ⟨?_, ?_, ?_, ?_⟩
  · rintro c ⟨⟩
    rcases h with rfl | rfl | rfl <;> decide
  all_goals
    rw [List.head?_cons, ne_eq, Option.some.injEq]
    rcases h with rfl | rfl | rfl <;> decide

end Json

/-! ## Part by part -/

namespace Form

open Json

theorem scan_null (fuel room : Nat) (rest : List UInt8) :
    scan (fuel + 1) room (Text.bytes Json.null.render ++ rest) = some (.null, rest) := by
  have hbytes : Text.bytes Json.null.render = [0x6E, 0x75, 0x6C, 0x6C] := by
    rw [render, Text.bytes_eq_flatMap]
    rfl
  rw [hbytes, scan, List.cons_append, skipBlanks_cons (by decide)]
  rfl

theorem scan_bool (fuel room : Nat) (b : Bool) (rest : List UInt8) :
    scan (fuel + 1) room (Text.bytes (Json.bool b).render ++ rest) = some (.bool b, rest) := by
  cases b with
  | true =>
    have hbytes : Text.bytes (Json.bool true).render = [0x74, 0x72, 0x75, 0x65] := by
      rw [render, Text.bytes_eq_flatMap]
      rfl
    rw [hbytes, scan, List.cons_append, skipBlanks_cons (by decide)]
    rfl
  | false =>
    have hbytes : Text.bytes (Json.bool false).render = [0x66, 0x61, 0x6C, 0x73, 0x65] := by
      rw [render, Text.bytes_eq_flatMap]
      rfl
    rw [hbytes, scan, List.cons_append, skipBlanks_cons (by decide)]
    rfl

theorem scan_empty_array (fuel room : Nat) (rest : List UInt8) :
    scan (fuel + 1) room (Text.bytes (Json.arr []).render ++ rest) =
      some (within room (.arr []), rest) := by
  have hclose : skipBlanks (0x5D :: rest) = 0x5D :: rest := skipBlanks_cons (by decide) rest
  have hbytes : Text.bytes (Json.arr []).render = [0x5B, 0x5D] := by
    rw [render, renderItems, Text.bytes_eq_flatMap]
    rfl
  rw [hbytes, scan, List.cons_append, skipBlanks_cons (by decide)]
  simp only [List.singleton_append, hclose]

theorem scan_empty_object (fuel room : Nat) (rest : List UInt8) :
    scan (fuel + 1) room (Text.bytes (Json.obj []).render ++ rest) =
      some (within room (.obj []), rest) := by
  have hclose : skipBlanks (0x7D :: rest) = 0x7D :: rest := skipBlanks_cons (by decide) rest
  have hbytes : Text.bytes (Json.obj []).render = [0x7B, 0x7D] := by
    rw [render, renderFields, Text.bytes_eq_flatMap]
    rfl
  rw [hbytes, scan, List.cons_append, skipBlanks_cons (by decide)]
  simp only [List.singleton_append, hclose]

theorem scan_bracket (fuel room : Nat) {b : UInt8} (hb : b ≠ 0x5D)
    (hblank : (b = 0x20 || b = 0x0A || b = 0x0D || b = 0x09 : Bool) = false) (bs : List UInt8) :
    scan (fuel + 1) room (0x5B :: b :: bs) =
      (scanItems fuel (room - 1) (b :: bs)).map fun r => (within room (.arr r.1), r.2) := by
  rw [scan, skipBlanks_cons (by decide)]
  simp only [skipBlanks_cons hblank]
  split
  · next heq => exact absurd (List.cons.inj heq).1 hb
  · rfl

variable {fuel room : Nat} {bs rest : List UInt8} {x : Form}

theorem scanItems_last (h : scan fuel room bs = some (x, 0x5D :: rest)) :
    scanItems (fuel + 1) room bs = some ([x], rest) := by
  have hend : skipBlanks (0x5D :: rest) = 0x5D :: rest := skipBlanks_cons (by decide) rest
  rw [scanItems, h]
  simp only [hend]

theorem scanItems_comma (h : scan fuel room bs = some (x, 0x2C :: rest)) :
    scanItems (fuel + 1) room bs = (scanItems fuel room rest).map fun r => (x :: r.1, r.2) := by
  have hcomma : skipBlanks (0x2C :: rest) = 0x2C :: rest := skipBlanks_cons (by decide) rest
  rw [scanItems, h]
  simp only [hcomma]

theorem scanFields_last (name : String) (h : scan fuel room bs = some (x, 0x7D :: rest)) :
    ∃ ps, assembleText? ps = some name ∧
      scanFields (fuel + 1) room (Text.bytes (quote name) ++ 0x3A :: bs) =
        some ([(ps, x)], rest) := by
  obtain ⟨ps, hs, ha⟩ := scanString_escapedBytes name (0x3A :: bs)
  have hcolon : skipBlanks (0x3A :: bs) = 0x3A :: bs := skipBlanks_cons (by decide) bs
  have hend : skipBlanks (0x7D :: rest) = 0x7D :: rest := skipBlanks_cons (by decide) rest
  refine ⟨ps, ha, ?_⟩
  rw [bytes_quote, List.append_assoc, List.singleton_append, List.cons_append, scanFields,
    skipBlanks_cons (by decide)]
  simp only [hs, hcolon, h, hend]

theorem scanFields_comma (name : String) (h : scan fuel room bs = some (x, 0x2C :: rest)) :
    ∃ ps, assembleText? ps = some name ∧
      scanFields (fuel + 1) room (Text.bytes (quote name) ++ 0x3A :: bs) =
        (scanFields fuel room rest).map fun r => ((ps, x) :: r.1, r.2) := by
  obtain ⟨ps, hs, ha⟩ := scanString_escapedBytes name (0x3A :: bs)
  have hcolon : skipBlanks (0x3A :: bs) = 0x3A :: bs := skipBlanks_cons (by decide) bs
  have hcomma : skipBlanks (0x2C :: rest) = 0x2C :: rest := skipBlanks_cons (by decide) rest
  refine ⟨ps, ha, ?_⟩
  rw [bytes_quote, List.append_assoc, List.singleton_append, List.cons_append, scanFields,
    skipBlanks_cons (by decide)]
  simp only [hs, hcolon, h, hcomma]

/-! ## Whole values -/

/-- The fields with their names put together. -/
def named? (fields : List (List Piece × Form)) : Option (List (String × Form)) :=
  fields.mapM fun f => (assembleText? f.1).map fun name => (name, f.2)

theorem ofFields_of_named? {fields : List (List Piece × Form)} {named : List (String × Form)}
    (h : named? fields = some named) : ofFields fields = .obj named := by
  unfold named? at h
  rw [ofFields, h]

theorem named?_cons {ps : List Piece} {name : String} {x : Form}
    {fields : List (List Piece × Form)} {named : List (String × Form)}
    (hps : assembleText? ps = some name) (h : named? fields = some named) :
    named? ((ps, x) :: fields) = some ((name, x) :: named) := by
  unfold named? at h ⊢
  rw [List.mapM_cons, hps, h]
  rfl

mutual

/-- **The text of a value is read to its end.** -/
theorem scan_render : ∀ (j : Json) (fuel room : Nat) {rest : List UInt8}, Stops rest →
    2 * (Text.bytes j.render).length ≤ fuel →
    scan fuel room (Text.bytes j.render ++ rest) = some (j.reread room, rest)
  | .null, fuel, room, rest, _, hf => by
    obtain ⟨fuel, rfl⟩ := exists_fuel _ hf
    exact scan_null fuel room rest
  | .bool b, fuel, room, rest, _, hf => by
    obtain ⟨fuel, rfl⟩ := exists_fuel _ hf
    exact scan_bool fuel room b rest
  | .num v, fuel, room, rest, hr, hf => by
    obtain ⟨fuel, rfl⟩ := exists_fuel _ hf
    exact scan_number v hr fuel room
  | .str s, fuel, room, rest, _, hf => by
    obtain ⟨fuel, rfl⟩ := exists_fuel _ hf
    exact scan_quote fuel room s rest
  | .arr [], fuel, room, rest, _, hf => by
    obtain ⟨fuel, rfl⟩ := exists_fuel _ hf
    exact scan_empty_array fuel room rest
  | .arr (x :: xs), fuel, room, rest, _, hf => by
    obtain ⟨fuel, rfl⟩ := exists_fuel _ hf
    rw [bytes_arr, List.length_cons, List.length_append, List.length_singleton] at hf
    have hitems := scanItems_render (x :: xs) (List.cons_ne_nil x xs) fuel (room - 1) rest
      (by omega)
    obtain ⟨b, bs, hfirst, hb, hblank⟩ := exists_first_items x xs
    rw [bytes_arr, List.cons_append, List.append_assoc, List.singleton_append]
    rw [hfirst, List.cons_append] at hitems ⊢
    rw [scan_bracket fuel room hb hblank, hitems]
    rfl
  | .obj [], fuel, room, rest, _, hf => by
    obtain ⟨fuel, rfl⟩ := exists_fuel _ hf
    exact scan_empty_object fuel room rest
  | .obj (f :: fields), fuel, room, rest, _, hf => by
    obtain ⟨fuel, rfl⟩ := exists_fuel _ hf
    rw [bytes_obj, List.length_cons, List.length_append, List.length_singleton] at hf
    obtain ⟨scanned, hscanned, hnamed⟩ := scanFields_render (f :: fields)
      (List.cons_ne_nil f fields) fuel (room - 1) rest (by omega)
    obtain ⟨bs, hfirst⟩ := exists_quote_fields f fields
    rw [bytes_obj, List.cons_append, List.append_assoc, List.singleton_append]
    rw [hfirst, List.cons_append] at hscanned ⊢
    rw [scan_brace, hscanned, Option.map_some, ofFields_of_named? hnamed]
    rfl

theorem scanItems_render : ∀ (items : List Json), items ≠ [] →
    ∀ (fuel room : Nat) (rest : List UInt8), 2 * (Text.bytes (renderItems items)).length + 1 ≤ fuel →
    scanItems fuel room (Text.bytes (renderItems items) ++ 0x5D :: rest) =
      some (rereadItems room items, rest)
  | [], hne, _, _, _, _ => absurd rfl hne
  | [x], _, fuel, room, rest, hf => by
    obtain ⟨fuel, rfl⟩ : ∃ n, fuel = n + 1 := ⟨fuel - 1, by omega⟩
    rw [renderItems] at hf ⊢
    rw [scanItems_last (scan_render x fuel room (stops_cons (.inr (.inl rfl)) rest) (by omega))]
    rfl
  | x :: y :: xs, _, fuel, room, rest, hf => by
    obtain ⟨fuel, rfl⟩ : ∃ n, fuel = n + 1 := ⟨fuel - 1, by omega⟩
    rw [bytes_items_cons, List.length_append, List.length_cons] at hf
    rw [bytes_items_cons, List.append_assoc, List.cons_append,
      scanItems_comma (scan_render x fuel room (stops_cons (.inl rfl) _) (by omega)),
      scanItems_render (y :: xs) (List.cons_ne_nil y xs) fuel room rest (by omega)]
    rfl

theorem scanFields_render : ∀ (fields : List (String × Json)), fields ≠ [] →
    ∀ (fuel room : Nat) (rest : List UInt8), 2 * (Text.bytes (renderFields fields)).length + 1 ≤ fuel →
    ∃ scanned, scanFields fuel room (Text.bytes (renderFields fields) ++ 0x7D :: rest) =
      some (scanned, rest) ∧ named? scanned = some (rereadFields room fields)
  | [], hne, _, _, _, _ => absurd rfl hne
  | [(name, x)], _, fuel, room, rest, hf => by
    obtain ⟨fuel, rfl⟩ : ∃ n, fuel = n + 1 := ⟨fuel - 1, by omega⟩
    rw [bytes_field, List.length_append, List.length_cons] at hf
    obtain ⟨ps, hps, hs⟩ :=
      scanFields_last name (scan_render x fuel room (stops_cons (.inr (.inr rfl)) rest) (by omega))
    rw [bytes_field, List.append_assoc, List.cons_append]
    exact ⟨_, hs, named?_cons hps rfl⟩
  | (name, x) :: (name', y) :: fields, _, fuel, room, rest, hf => by
    obtain ⟨fuel, rfl⟩ : ∃ n, fuel = n + 1 := ⟨fuel - 1, by omega⟩
    rw [bytes_fields_cons, List.length_append, List.length_cons, List.length_append,
      List.length_cons] at hf
    obtain ⟨scanned, hscanned, hnamed⟩ := scanFields_render ((name', y) :: fields)
      (List.cons_ne_nil _ _) fuel room rest (by omega)
    obtain ⟨ps, hps, hs⟩ := scanFields_comma name
      (scan_render x fuel room (stops_cons (.inl rfl) _) (by omega))
    rw [hscanned] at hs
    rw [bytes_fields_cons, List.append_assoc, List.cons_append, List.append_assoc, List.cons_append]
    exact ⟨_, hs, named?_cons hps hnamed⟩

end

theorem bytes_render (name value : String) :
    Text.bytes (Json.obj [(name, .str value)]).render =
      0x7B :: (Text.bytes (quote name) ++ 0x3A :: (Text.bytes (quote value) ++ [0x7D])) := by
  rw [bytes_obj, bytes_field, List.append_assoc, List.cons_append, render]

/-- **A value is read back from its text.** -/
theorem parse?_render (j : Json) :
    parse? (Text.bytes j.render) = some (j.reread depthLimit) := by
  have hscan := scan_render j (2 * (Text.bytes j.render).length + 2) depthLimit stops_nil (by omega)
  rw [List.append_nil] at hscan
  rw [parse?, hscan]
  rfl

end Form

end DocSearch
