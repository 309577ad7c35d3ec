import Mathlib
import DocSearch.Proofs.Json.Fields
import DocSearch.Proofs.Json.Reread
/-!
# Values that are read back as they are

* `Json.Plain`: the names of all objects are in order, and all numbers are words.
* `value?_reread`, `value?_toForm`: such a value is the value of its text and of its form.
* **`parse?_render`**: it is read back from its text.
-/

namespace DocSearch.Json

mutual

/-- The names of each object are in order, all numbers are words, and there are no more than `room`
levels. -/
def Plain (room : Nat) : Json → Prop
  | .num v => ∃ n < Text.wordBound, v = .int n
  | .arr items => 0 < room ∧ PlainItems (room - 1) items
  | .obj fields => 0 < room ∧ Ordered fields ∧ PlainFields (room - 1) fields
  | .null | .bool _ | .str _ => True

/-- All items are plain. -/
def PlainItems (room : Nat) : List Json → Prop
  | [] => True
  | x :: xs => x.Plain room ∧ PlainItems room xs

/-- All fields are plain. -/
def PlainFields (room : Nat) : List (String × Json) → Prop
  | [] => True
  | (_, x) :: fields => x.Plain room ∧ PlainFields room fields

end

section

variable {room : Nat} {name name' : String} {x y : Json}

theorem plain_nat {n : Nat} (h : n < Text.wordBound) (room : Nat) : (nat n).Plain room := ⟨n, h, rfl⟩

end

mutual

theorem value?_reread : ∀ {j : Json} {room : Nat}, j.Plain room → (j.reread room).value? = some j
  | .null, _, _ | .bool _, _, _ | .str _, _, _ => rfl
  | .num v, room, h => by
    obtain ⟨n, hn, rfl⟩ := h
    rw [reread, numberForm_word hn, Form.value?]
  | .arr items, room, ⟨hroom, h⟩ => by
    rw [reread, Form.within, if_neg hroom.ne', Form.value?, values?_reread h, Option.map_some]
  | .obj fields, room, ⟨hroom, ho, h⟩ => by
    rw [reread, Form.within, if_neg hroom.ne', Form.value?, fieldValues?_reread h, Option.map_some,
      ho.orderFields_eq]

theorem values?_reread : ∀ {items : List Json} {room : Nat}, PlainItems room items →
    Form.values? (rereadItems room items) = some items
  | [], _, _ => rfl
  | x :: xs, room, ⟨hx, hxs⟩ => by
    rw [rereadItems, Form.values?, value?_reread hx, values?_reread hxs]

theorem fieldValues?_reread : ∀ {fields : List (String × Json)} {room : Nat},
    PlainFields room fields → Form.fieldValues? (rereadFields room fields) = some fields
  | [], _, _ => rfl
  | (name, x) :: fields, room, ⟨hx, hfields⟩ => by
    rw [rereadFields, Form.fieldValues?, value?_reread hx, fieldValues?_reread hfields]

end

mutual

theorem value?_toForm : ∀ {j : Json} {room : Nat}, j.Plain room → j.toForm.value? = some j
  | .null, _, _ | .bool _, _, _ | .num _, _, _ | .str _, _, _ => rfl
  | .arr items, room, ⟨_, h⟩ => by
    rw [toForm, Form.value?, values?_itemForms h, Option.map_some]
  | .obj fields, room, ⟨_, ho, h⟩ => by
    rw [toForm, Form.value?, fieldValues?_fieldForms h, Option.map_some, ho.orderFields_eq]

theorem values?_itemForms : ∀ {items : List Json} {room : Nat}, PlainItems room items →
    Form.values? (itemForms items) = some items
  | [], _, _ => rfl
  | x :: xs, room, ⟨hx, hxs⟩ => by
    rw [itemForms, Form.values?, value?_toForm hx, values?_itemForms hxs]

theorem fieldValues?_fieldForms : ∀ {fields : List (String × Json)} {room : Nat},
    PlainFields room fields → Form.fieldValues? (fieldForms fields) = some fields
  | [], _, _ => rfl
  | (name, x) :: fields, room, ⟨hx, hfields⟩ => by
    rw [fieldForms, Form.fieldValues?, value?_toForm hx, fieldValues?_fieldForms hfields]

end

/-- **A plain value is read back from its text.** -/
theorem parse?_render {j : Json} (h : j.Plain Form.depthLimit) :
    parse? (Text.bytes j.render) = some j := by
  rw [parse?, Form.parse?_render, Option.bind_some, value?_reread h]

end DocSearch.Json
