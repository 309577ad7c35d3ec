import DocSearch.Assoc
import DocSearch.Error
import DocSearch.Text.Numeral
/-!
# A store of hashes

* `Store` — hashes of text fields by key. A hash is never empty: it appears with its first field and
  is gone with its last one. It may have a deadline, at which it is gone as a whole.
* The operations take the time `now`; hashes whose deadline has come are dropped first.
-/

namespace DocSearch

/-- The fields of a hash, and when it expires. -/
structure Hash where
  fields : List (String × String)
  deadline : Option Nat := none
deriving DecidableEq, Repr, Inhabited

/-- Hashes by key. -/
structure Store where
  hashes : List (String × Hash) := []
deriving DecidableEq, Repr, Inhabited

namespace Store

/-- The deadline of a hash has come. -/
def expired (now : Nat) (h : Hash) : Bool :=
  match h.deadline with
  | some t => t ≤ now
  | none => false

/-- Drops the hashes whose deadline has come. -/
def purge (now : Nat) (s : Store) : Store := ⟨s.hashes.filter fun p => !expired now p.2⟩

/-- The hash of a key. -/
def hash? (s : Store) (key : String) : Option Hash := s.hashes.lookup key

/-- The fields of a hash, none when there is no hash. -/
def fieldsOf (s : Store) (key : String) : List (String × String) :=
  ((s.hash? key).map (·.fields)).getD []

/-- Gives the key a hash. -/
def put (s : Store) (key : String) (h : Hash) : Store := ⟨Assoc.set key h s.hashes⟩

/-- Removes the hash of a key with its deadline. -/
def delete (s : Store) (key : String) : Store := ⟨Assoc.erase key s.hashes⟩

/-- There is a hash under the key. -/
def contains (now : Nat) (s : Store) (key : String) : Bool × Store :=
  let s := s.purge now
  ((s.hash? key).isSome, s)

/-- The value of a field. -/
def get (now : Nat) (s : Store) (key field : String) : Option String × Store :=
  let s := s.purge now
  ((s.fieldsOf key).lookup field, s)

/-- All fields of a hash. -/
def getAll (now : Nat) (s : Store) (key : String) : List (String × String) × Store :=
  let s := s.purge now
  (s.fieldsOf key, s)

/-- Sets a field; a deadline stays as it is. -/
def set (now : Nat) (s : Store) (key field value : String) : Store :=
  let s := s.purge now
  let h := (s.hash? key).getD ⟨[], none⟩
  s.put key { h with fields := Assoc.set field value h.fields }

/-- Sets fields all at once, and a deadline if there is a time to live. No fields change nothing. -/
def setAll (now : Nat) (s : Store) (key : String) (entries : List (String × String))
    (ttl : Option Nat) : Store :=
  if entries.isEmpty then s
  else
    let s := s.purge now
    let h := (s.hash? key).getD ⟨[], none⟩
    s.put key ⟨Assoc.setAll entries h.fields, (ttl.map (now + ·)) <|> h.deadline⟩

/-- The number in a field that counts, zero where there is no field. -/
def counter (fields : List (String × String)) (field : String) : Except ProviderError Int :=
  match fields.lookup field with
  | none => .ok 0
  | some value =>
    match Text.integer? value with
    | some n => .ok n
    | none => .error (.other ("hash value is not an integer: " ++ value))

/-- Adds to the counter in a field, if the hash is there. A counter that falls to zero or below is
removed, and with its last field the hash. -/
def adjust (now : Nat) (s : Store) (key field : String) (delta : Int) :
    Except ProviderError (Option Int) × Store :=
  let s := s.purge now
  match s.hash? key with
  | none => (.ok none, s)
  | some h =>
    match counter h.fields field with
    | .error e => (.error e, s)
    | .ok n =>
      let updated := n + delta
      if 0 < updated then
        (.ok (some updated), s.put key { h with fields := Assoc.set field (toString updated) h.fields })
      else
        let fields := Assoc.erase field h.fields
        (.ok (some updated),
          if fields.isEmpty then s.delete key else s.put key { h with fields := fields })

end Store

end DocSearch
