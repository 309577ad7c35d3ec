import DocSearch.CommandLine
/-!
# Commands of the console

* `Command` — what a user can ask the console to do.
* `Command.parse` — the command of a command line, and the address of the service.
-/

namespace DocSearch

/-- What a user can ask the console to do. -/
inductive Command where
  | search (query : String) (page size : Nat)
  | listTags
  | changeTag (file name : String) (add : Bool)
  | showActivity
deriving DecidableEq, Repr, Inhabited

/-- A command line that is not carried out: why, and which command it names. -/
structure Refusal where
  topic : Option String
  error : ArgumentError
deriving DecidableEq, Repr, Inhabited

namespace Command

/-- What can stand before the name of a command. -/
def mainSpec : CommandSpec where
  options := [
    { name := "api-url", variableName := some "DOCSEARCH_API_URL",
      fallback := some "http://localhost:8004" }]

/-- What can be given to each command. -/
def specs : List (String × CommandSpec) := [
  ("search", {
    words := ["query"]
    options := [
      { name := "page", short := some 'p', kind := .number, fallback := some "0" },
      { name := "size", short := some 's', kind := .number, fallback := some "10" }] }),
  ("tags", {}),
  ("tag", { words := ["file-id", "name"] }),
  ("untag", { words := ["file-id", "name"] }),
  ("stats", {})]

/-- The name of the command that gives help on others. -/
def helpName : String := "help"

/-- The text is the name of a command. -/
def isName (s : String) : Bool := s = helpName || (specs.lookup s).isSome

/-- The command of that name with what was given to it. -/
def ofGiven (name : String) (g : Given) : Command :=
  let word (i : Nat) : String := g.words.getD i ""
  match name with
  | "search" => search (word 0) (g.number "page") (g.number "size")
  | "tag" => changeTag (word 0) (word 1) true
  | "untag" => changeTag (word 0) (word 1) false
  | "stats" => showActivity
  | _ => listTags

/-- Why a call for help on certain commands is not answered by the help on all of them. -/
def parseHelp : List String → Refusal
  | [] => ⟨none, .helpAsked⟩
  | [topic] => ⟨some topic, if isName topic then .helpAsked else .unknownArgument⟩
  | _ => ⟨none, .unknownArgument⟩

/-- Reads the arguments behind the name of a command. -/
def parseNamed (environment : String → Option String) (name : String) (args : List String) :
    Except Refusal Command :=
  match specs.lookup name with
  | none => .error (parseHelp args)
  | some spec =>
    match CommandLine.parse spec environment args with
    | .ok g => .ok (ofGiven name g)
    | .error e => .error ⟨some name, e⟩

/-- The address of the service, and the command. What is wrong behind the name of the command is
found before a doubt about the address. -/
def parse (environment : String → Option String) (args : List String) :
    Except Refusal (String × Command) := do
  let ofMain {α : Type} (r : Except ArgumentError α) : Except Refusal α := r.mapError (⟨none, ·⟩)
  let (s, rest) ← ofMain (CommandLine.scan mainSpec isName {} args)
  match rest with
  | [] => throw ⟨none, .missingCommand⟩
  | name :: args =>
    let command ← parseNamed environment name args
    let g ← ofMain (CommandLine.finish mainSpec environment s)
    return (g.text "api-url", command)

end Command

end DocSearch
