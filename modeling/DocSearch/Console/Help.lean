import DocSearch.Console.Command
/-!
# Help

* `Help.text` — the help on the console or on one of its commands.
* `ArgumentError.message` — what is wrong with a command line.
-/

namespace DocSearch

/-- What is wrong with a command line. -/
def ArgumentError.message : ArgumentError → String
  | unknownArgument => "unexpected argument found"
  | missingValue => "a value is required for an option but none was supplied"
  | unsuitableValue => "invalid value for an option"
  | repeatedOption => "an option cannot be used multiple times"
  | needlessValue => "unexpected value for an option found; no more were expected"
  | missingArgument => "required arguments were not provided"
  | missingCommand => "a command is required but none was provided"
  | helpAsked => "help was asked for"

namespace Help

/-- What a command is for. -/
def about : List (String × String) := [
  ("search", "Search documents, e.g. 'invoice author:john size>1M'"),
  ("tags", "List tags with their file counts"),
  ("tag", "Add a manual tag to a file"),
  ("untag", "Remove a manual tag from a file"),
  ("stats", "Show processing statistics for the last 30 days"),
  ("help", "Print this message or the help of the given subcommand(s)")]

/-- What the console is for. -/
def aboutAll : String := "A CLI tool for searching and tagging indexed documents"

/-- The name of a value as it stands in help. -/
def placeholder (name : String) : String :=
  "<" ++ .ofList (name.toList.map fun c => if c = '-' then '_' else c.toUpper) ++ ">"

/-- The text, filled up with spaces to a length. -/
def filled (n : Nat) (s : String) : String := s ++ .ofList (List.replicate (n - s.length) ' ')

/-- Two columns, the first one as wide as its longest entry. -/
def columns (rows : List (String × String)) : String :=
  let n := (rows.map (·.1.length)).foldl max 0
  String.join (rows.map fun (left, right) => "  " ++ filled n left ++ "  " ++ right ++ "\n")

/-- A headed part. -/
def part (title : String) (rows : List (String × String)) : String :=
  if rows.isEmpty then "" else "\n" ++ title ++ ":\n" ++ columns rows

/-- An option, and where its value comes from. -/
def optionRow (environment : String → Option String) (o : OptionSpec) : String × String :=
  let short := match o.short with
    | some c => "-" ++ c.toString ++ ", "
    | none => "    "
  let source := match o.variableName with
    | some v => ["[env: " ++ v ++ "=" ++ (environment v).getD "" ++ "]"]
    | none => []
  let fallback := match o.fallback with
    | some v => ["[default: " ++ v ++ "]"]
    | none => []
  (short ++ "--" ++ o.name ++ " " ++ placeholder o.name, " ".intercalate (source ++ fallback))

/-- The option that asks for help. -/
def helpRow : String × String := ("-h, --help", "Print help")

/-- The help on the console. -/
def all (environment : String → Option String) (program : String) : String :=
  aboutAll ++ "\n\nUsage: " ++ program ++ " [OPTIONS] <COMMAND>\n" ++
    part "Commands" about ++
    part "Options" (Command.mainSpec.options.map (optionRow environment) ++ [helpRow])

/-- The help on one command. -/
def one (environment : String → Option String) (program name : String) (spec : CommandSpec) :
    String :=
  let words := spec.words.map placeholder
  let usage := [program, name] ++ (if spec.options.isEmpty then [] else ["[OPTIONS]"]) ++ words
  (about.lookup name).getD "" ++ "\n\nUsage: " ++ " ".intercalate usage ++ "\n" ++
    part "Arguments" (words.map (·, "")) ++
    part "Options" (spec.options.map (optionRow environment) ++ [helpRow])

/-- The help on the console or on one of its commands. -/
def text (environment : String → Option String) (program : String) (topic : Option String) :
    String :=
  match topic with
  | none => all environment program
  | some name =>
    match Command.specs.lookup name with
    | some spec => one environment program name spec
    | none => (about.lookup name).getD "" ++ "\n\nUsage: " ++ program ++ " " ++ name ++ " [COMMAND]...\n" ++
        part "Arguments" [("[COMMAND]...", "Print help for the subcommand(s)")]

end Help

end DocSearch
