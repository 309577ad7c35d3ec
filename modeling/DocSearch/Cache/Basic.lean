import DocSearch.Cache.Action
import DocSearch.Procedure
/-!
# The tag cache

The counts of all tags are kept in one hash of the store. They are taken from the index when they
are asked for and missing (hydration), and moved one by one when a tag is added or removed. The
index is always changed first.

* `Cache.getTags`, `Cache.addTag`, `Cache.removeTag`, `Cache.flush` — what a caller can ask for, as
  procedures that end with a result or the first failure.
* `Cache.together` — two callers who ask for the tags at once.
-/

namespace DocSearch.Cache

/-- A procedure that ends with a result or a failure. -/
abbrev Call (α : Type) := ExceptT ProviderError (Procedure Action.Reply) α

/-- Makes a call of the cache, nobody else being about. -/
def perform {α : Type} (c : Call α) (w : CacheWorld) : Except ProviderError α × CacheWorld :=
  Procedure.run Action.perform c.run w

/-- A call of the store or the index. -/
def call {α : Type} (p : Procedure Action.Reply (Except ProviderError α)) : Call α := ExceptT.mk p

/-- An action that cannot fail. -/
def always (a : Action) : Call a.Reply := ExceptT.lift (Procedure.ofAction a)

/-- Does `before`, the call, and, however the call ends, `after`. -/
def between {α : Type} (before after : Action) (c : Call α) : Call α := do
  let _ ← always before
  let r ← ExceptT.lift c.run
  let _ ← always after
  ExceptT.mk (pure r)

/-- The counts are there. -/
def isHydrated : Call Bool := call (.ofAction Action.contains)

/-- Takes the counts from the index and writes them, unless there are none. -/
def fill : Call Unit := do
  let _ ← always .observe
  let counts ← call (.ofAction Action.count)
  if counts.isEmpty then pure ()
  else call (.ofAction (Action.writeAll (counts.map TagCount.toRow)))

/-- Fills the cache if the counts are missing. One caller at a time does so, and each looks again
when its turn has come. -/
def hydrate : Call Unit := do
  if ← isHydrated then pure ()
  else
    between .acquire .release do
      if ← isHydrated then pure ()
      else between (.flag true) (.flag false) fill

/-- The counts that rows of the hash tell, in their order. -/
def countsOfRows (rows : List (String × String)) : List TagCount :=
  TagCount.sort (rows.filterMap fun r => TagCount.ofRow? r.1 r.2)

/-- The counts as they are kept. -/
def read : Call (List TagCount) := do
  let rows ← call (.ofAction Action.readAll)
  return countsOfRows rows

/-- The counts of all tags, most used first. -/
def getTags : Call (List TagCount) := do
  hydrate
  read

/-- Moves the count of a tag if the index has changed, and gives all counts. -/
def afterChange (change : TagChange) (tag : Tag) (delta : Int) : Call (List TagCount) := do
  if change = .applied then
    let _ ← call (.ofAction (Action.adjust tag.cacheField delta))
  getTags

/-- Gives a file a tag, and gives all counts. -/
def addTag (file : String) (tag : Tag) : Call (List TagCount) := do
  let change ← call (.ofAction (Action.add file tag))
  afterChange change tag 1

/-- Takes a tag from a file, and gives all counts. -/
def removeTag (file : String) (tag : Tag) : Call (List TagCount) := do
  let change ← call (.ofAction (Action.remove file tag))
  afterChange change tag (-1)

/-- Drops the counts; who asks next takes them from the index again. -/
def flush : Call Unit := between .acquire .release (call (.ofAction Action.delete))

/-- Two callers ask for the tags. The second one comes while the first one is about to count the
index, and goes on when the first one has ended. -/
def together (w : CacheWorld) :
    (Except ProviderError (List TagCount) × Except ProviderError (List TagCount)) × CacheWorld :=
  let (first, w) := getTags.run.runUntil Action.perform (fun a _ => a = .count) w
  let (second, w) := getTags.run.runUntil Action.perform Action.waits w
  let (a, w) := perform first w
  let (b, w) := perform second w
  ((a, b), w)

end DocSearch.Cache
