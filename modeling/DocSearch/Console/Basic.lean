import DocSearch.Console.Help
import DocSearch.Console.Report
import DocSearch.Http.Exchange
import DocSearch.Json.Parser
/-!
# The console

A command sends one request to the service and shows what comes back.

* `Console.request?` — the request of a command.
* `Console.carryOut` — sends the request of a command, and reports the reply.
* `Console.run` — does what a command line says.
-/

namespace DocSearch

/-- What is left when the console has ended. -/
structure Ending where
  exit : Nat
  output : String := ""
  errors : String := ""
deriving DecidableEq, Repr, Inhabited

/-- Why a command has no result. -/
inductive ConsoleError where
  | unreachable
  | failed (status : Nat) (text : String)
  | unreadable
deriving DecidableEq, Repr, Inhabited

/-- The text for a user. -/
def ConsoleError.message : ConsoleError → String
  | unreachable => "Failed to reach the search service"
  | failed status text =>
    "Request failed (" ++ toString status ++ " " ++
      (reasonPhrase? status).getD "<unknown status code>" ++ "): " ++ text
  | unreadable => "error decoding response body"

namespace Console

/-- The address of a resource of the service at `base`. -/
def addressOf? (base path : String) : Option Address :=
  Address.parse? (Address.trimSlashes base ++ path)

/-- The request of a command. -/
def request? (base : String) : Command → Option WireRequest
  | .search query page size => do
    let address ← addressOf? base "/api/search"
    return ⟨"GET", address.withPairs
      [("query", query), ("page", toString page), ("size", toString size)], none⟩
  | .listTags => do return ⟨"GET", ← addressOf? base "/api/tags", none⟩
  | .changeTag file name add => do
    let address ← addressOf? base ("/api/tags/" ++ file ++ "/manual/" ++ name)
    return ⟨if add then "POST" else "DELETE", address, none⟩
  | .showActivity => do return ⟨"GET", ← addressOf? base "/api/stats", none⟩

/-- Reads the text of a reply. -/
def understand {α : Type} (read : Reader α) (write : α → String) (text : String) :
    Except ConsoleError String :=
  match (Form.parse? (Text.bytes text)).bind read with
  | some a => .ok (write a)
  | none => .error .unreadable

/-- The report of a reply that tells success. -/
def report (text : String) : Command → Except ConsoleError String
  | .search _ page _ => understand FoundPage.read (Report.page page) text
  | .listTags => understand TagRow.readAll Report.tags text
  | .changeTag file name add => understand TagRow.readChanged (Report.changed file name add) text
  | .showActivity => understand Activity.read Report.activity text

/-- What a reply means for a command. -/
def outcome (c : Command) : Option WireReply → Except ConsoleError String
  | none => .error .unreachable
  | some reply =>
    if reply.isSuccess then report reply.content c
    else .error (.failed reply.status reply.readable)

/-- The end of a command. -/
def ending : Except ConsoleError String → Ending
  | .ok text => { exit := 0, output := text }
  | .error e => { exit := 1, errors := "❌ Error: " ++ e.message ++ "\n" }

/-- Sends the request of a command, and reports the reply. -/
def carryOut (base : String) (c : Command) : Exchange Ending :=
  match request? base c with
  | none => .done (ending (.error .unreachable))
  | some r => .act r fun reply => .done (ending (outcome c reply))

/-- The end of a command line that is not carried out. -/
def refuse (environment : String → Option String) (program : String) (r : Refusal) : Ending :=
  if r.error = .helpAsked then { exit := 0, output := Help.text environment program r.topic }
  else
    { exit := 2
      errors := "error: " ++ r.error.message ++ "\n\nFor more information, try '--help'.\n" }

/-- Does what a command line says. -/
def run (environment : String → Option String) (program : String) (args : List String) :
    Exchange Ending :=
  match Command.parse environment args with
  | .ok (base, c) => carryOut base c
  | .error r => .done (refuse environment program r)

end Console

end DocSearch
