import DocSearch.File
/-!
# Answers of a document index

* `IndexAnswer.read` — the answer to a search as the index writes it, which keeps score and
  fragments of a hit beside the document.
* `UpdateAnswer.read` — how many documents an update has met, and how many it has changed.
-/

namespace DocSearch

namespace IndexAnswer

/-- The number of all hits, plain or as the `value` of an object. -/
def readTotal : Reader Nat
  | .obj fields => do (← Form.record? ["value"] (.obj fields)).required "value" Reader.word
  | f => Reader.word f

/-- Fragments of the text of a document are called fragments of its `text`. -/
def nameFragments (fragments : Fragments) : Fragments :=
  orderFields (fragments.map fun f => (if f.1 = "content.text" then "text" else f.1, f.2))

/-- A document with the score and the fragments of the hit. -/
def hitOf (score : Option Binary64) (document : FileHit) (fragments : Fragments) : FileHit :=
  let content :=
    if fragments.isEmpty then document.content
    else { document.content with highlight := some (nameFragments fragments) }
  { document with score := score, content := content }

/-- Reads a hit. -/
def readHit : Reader FileHit := fun f => do
  let r ← f.record? ["_score", "_source", "highlight"]
  return hitOf (← r.optional "_score" Reader.real) (← r.required "_source" FileHit.read)
    (← r.defaulted "highlight" [] Fragments.read)

/-- Reads the number of all hits, and some of them. -/
def readHits : Reader (Nat × List FileHit) := fun f => do
  let r ← f.record? ["total", "hits"]
  return (← r.required "total" readTotal, ← r.defaulted "hits" [] (Reader.list readHit))

/-- Reads the answer to a search. -/
def read : Reader SearchAnswer := fun f => do
  let r ← f.record? ["hits", "aggregations"]
  let (total, hits) ← r.required "hits" readHits
  return ⟨total, hits, ← r.defaulted "aggregations" .null Reader.value⟩

end IndexAnswer

/-- The answer to an update. -/
structure UpdateAnswer where
  met : Nat
  changed : Nat
deriving DecidableEq, Repr, Inhabited

/-- Reads the answer to an update; a missing number is zero. -/
def UpdateAnswer.read : Reader UpdateAnswer := fun f => do
  let r ← f.record? ["total", "updated"]
  return ⟨← r.defaulted "total" 0 Reader.word, ← r.defaulted "updated" 0 Reader.word⟩

end DocSearch
