import DocSearch.Console.Answer
import DocSearch.Console.Command
import DocSearch.Console.FileSize
import DocSearch.Console.Table
/-!
# What the console shows

* `Report.page`, `Report.tags`, `Report.changed`, `Report.activity` — the texts for the answers of
  the service.
-/

namespace DocSearch.Report

/-- How much of an id is shown. -/
def idLength : Nat := 8

/-- A file as a row of a table. -/
def fileRow (h : FoundFile) : List String :=
  [.ofList (h.id.toList.take idLength), h.shortName, h.fullName, fileSize h.size,
    ", ".intercalate h.tags]

/-- A page of files. -/
def page (number : Nat) (p : FoundPage) : String :=
  if p.hits.isEmpty then "📭 No documents found.\n"
  else
    "\n🔎 " ++ toString p.total ++ " documents found (" ++ toString p.took ++ " ms), page " ++
      toString number ++ "\n\n" ++
      (⟨["ID", "Name", "Path", "Size", "Tags"], p.hits.map fileRow⟩ : Table).render ++ "\n"

/-- A table of tags. -/
def tagTable (tags : List TagRow) : Table :=
  ⟨["Tag", "Type", "Files"], tags.map fun t => [t.name, t.type, toString t.files]⟩

/-- All tags. -/
def tags (tags : List TagRow) : String :=
  if tags.isEmpty then "📭 No tags yet.\n"
  else
    "\n🏷️  Tags (" ++ toString tags.length ++ ")\n\n" ++ (tagTable tags).render ++ "\n"

/-- The tags after a change. -/
def changed (file name : String) (add : Bool) (tags : List TagRow) : String :=
  "✅ Tag '" ++ name ++ "' " ++ (if add then "added to " else "removed from ") ++ file ++ "\n" ++
    (tagTable tags).render

/-- The files of each day. -/
def activity (a : Activity) : String :=
  let row (day : List (String × Json)) : List String :=
    Activity.date day :: a.names.map fun name => toString (Activity.count day name)
  "\n📊 " ++ toString a.total ++ " documents processed\n\n" ++
    (⟨"Date" :: a.names, a.days.map row⟩ : Table).render ++ "\n"

end DocSearch.Report
