import DocSearch.Error
import DocSearch.File
import DocSearch.Request.Compile
/-!
# What the search backend is asked to do

* `BackendCall` — the calls, and `BackendCall.Reply`, what each comes back with.
-/

namespace DocSearch

/-- A call of the search backend. -/
inductive BackendCall where
  /-- Asks for the files that a request describes. -/
  | search (request : SearchRequest)
  /-- Asks for the file of an id. -/
  | file (id : String)
  /-- Hides a file from searches, or shows it again. -/
  | setHidden (id : String) (hidden : Bool)

/-- What a call of the search backend comes back with. -/
abbrev BackendCall.Reply : BackendCall → Type
  | search _ => Except ProviderError SearchAnswer
  | file _ => Except ProviderError (Option FileHit)
  | setHidden _ _ => Except ProviderError Unit

end DocSearch
