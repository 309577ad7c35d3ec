import DocSearch.Text.Numeral
/-!
# Command lines

* `OptionSpec`, `CommandSpec` — what can be given to a command: options, each with a value, and
  words in a fixed order.
* `CommandLine.scan` — reads arguments from left to right. An option is complete when the next one
  begins or the arguments end, and only then it is looked at whether it stands twice, and whether
  its value suits.
* `CommandLine.finish` — fills in what was not given, first from the environment, then by fallbacks.
-/

namespace DocSearch

/-- Why a command line is not carried out. -/
inductive ArgumentError where
  /-- There is no such option, or a word too many. -/
  | unknownArgument
  /-- An option stands without its value. -/
  | missingValue
  /-- The value of an option does not suit it. -/
  | unsuitableValue
  /-- An option stands twice. -/
  | repeatedOption
  /-- A value stands behind an option that takes none. -/
  | needlessValue
  /-- A word or an option that is required is not there. -/
  | missingArgument
  /-- It is not said what to do. -/
  | missingCommand
  /-- Help is asked for, which ends the reading. -/
  | helpAsked
deriving DecidableEq, Repr, Inhabited

/-- The values that an option takes. -/
inductive ValueKind where
  | text
  | number
deriving DecidableEq, Repr, Inhabited

/-- The value suits. -/
def ValueKind.accepts : ValueKind → String → Bool
  | text, _ => true
  | number, s => (Text.natural? s).isSome

/-- An option of a command. -/
structure OptionSpec where
  name : String
  short : Option Char := none
  kind : ValueKind := .text
  /-- The variable of the environment that is taken where the option is not given. -/
  variableName : Option String := none
  /-- The value that is taken where there is no other. -/
  fallback : Option String := none
  required : Bool := false
deriving DecidableEq, Repr, Inhabited

/-- What can be given to a command. All words are required. -/
structure CommandSpec where
  options : List OptionSpec := []
  words : List String := []
deriving DecidableEq, Repr, Inhabited

/-- What was given to a command. -/
structure Given where
  values : List (String × String)
  words : List String
deriving DecidableEq, Repr, Inhabited

namespace Given

/-- The value of an option, if it has one. -/
def text? (g : Given) (name : String) : Option String := g.values.lookup name

/-- The value of an option, empty if it has none. -/
def text (g : Given) (name : String) : String := (g.text? name).getD ""

/-- The number that is the value of an option. -/
def number? (g : Given) (name : String) : Option Nat := (g.text? name).bind Text.natural?

/-- The number that is the value of an option, zero if it has none. -/
def number (g : Given) (name : String) : Nat := (g.number? name).getD 0

end Given

namespace CommandLine

/-- How an argument looks. -/
inductive Shape where
  /-- All that follows are words. -/
  | escape
  /-- A name behind two dashes, perhaps with a value behind an equals sign. -/
  | long (name : String) (value : Option String)
  /-- Letters behind one dash. -/
  | short (first : Char) (rest : List Char)
  /-- Anything else. -/
  | word
deriving DecidableEq, Repr, Inhabited

/-- The shape of an argument. A single dash is a word. -/
def Shape.ofText (s : String) : Shape :=
  match s.toList with
  | ['-', '-'] => escape
  | '-' :: '-' :: cs =>
    long (.ofList (cs.takeWhile (· ≠ '=')))
      ((cs.dropWhile (· ≠ '=')).tail?.map String.ofList)
  | '-' :: c :: cs => short c cs
  | _ => word

/-- What was read so far. -/
structure Scan where
  /-- The complete options with their values. -/
  values : List (String × String) := []
  /-- The last option, with its value once that was read. -/
  last : Option (OptionSpec × Option String) := none
  words : List String := []
  /-- Only words are to come. -/
  wordsOnly : Bool := false
deriving DecidableEq, Repr, Inhabited

namespace Scan

/-- Takes an option with its value. -/
def give (s : Scan) (o : OptionSpec) (value : String) : Except ArgumentError Scan :=
  if (s.values.lookup o.name).isSome then .error .repeatedOption
  else if o.kind.accepts value then .ok { s with values := s.values ++ [(o.name, value)] }
  else .error .unsuitableValue

/-- Completes the last option. -/
def settle (s : Scan) : Except ArgumentError Scan :=
  match s.last with
  | none => .ok s
  | some (_, none) => .error .missingValue
  | some (o, some value) => ({ s with last := none } : Scan).give o value

/-- Goes on to an option, whose value stands behind it or is the next argument. -/
def goTo (s : Scan) (o : OptionSpec) (value : Option String) : Except ArgumentError Scan := do
  let s ← s.settle
  match value with
  | some value => s.give o value
  | none => return { s with last := some (o, none) }

/-- Completes the last option, and stops since help is asked for. -/
def stopForHelp (s : Scan) : Except ArgumentError Scan := do
  let _ ← s.settle
  throw .helpAsked

/-- Takes a word. -/
def takeWord (s : Scan) (c : CommandSpec) (word : String) : Except ArgumentError Scan := do
  if s.words.length < c.words.length then
    let s ← s.settle
    return { s with words := s.words ++ [word] }
  else throw .unknownArgument

/-- The last option whose value is still to come. -/
def openOption? (s : Scan) : Option OptionSpec :=
  match s.last with
  | some (o, none) => some o
  | _ => none

/-- Reads an argument that is not bound to be a word. -/
def readFree (s : Scan) (c : CommandSpec) (arg : String) : Except ArgumentError Scan :=
  match Shape.ofText arg with
  | .escape => .ok { s with wordsOnly := true }
  | .long "help" none => s.stopForHelp
  | .long "help" (some _) => .error .needlessValue
  | .long name value =>
    match c.options.find? (·.name = name) with
    | some o => s.goTo o value
    | none => .error .unknownArgument
  | .short 'h' _ => s.stopForHelp
  | .short letter rest =>
    match c.options.find? (·.short = some letter) with
    | some o =>
      s.goTo o (match rest with
        | [] => none
        | '=' :: value => some (.ofList value)
        | value => some (.ofList value))
    | none => .error .unknownArgument
  | .word =>
    match s.openOption? with
    | some o => .ok { s with last := some (o, some arg) }
    | none => s.takeWord c arg

/-- Reads an argument. -/
def read (s : Scan) (c : CommandSpec) (arg : String) : Except ArgumentError Scan :=
  if s.wordsOnly then s.takeWord c arg else s.readFree c arg

end Scan

/-- Reads arguments up to the first one that `stops` names where no value is due. -/
def scan (c : CommandSpec) (stops : String → Bool) :
    Scan → List String → Except ArgumentError (Scan × List String)
  | s, [] => .ok (s, [])
  | s, arg :: rest =>
    if !s.wordsOnly && s.openOption?.isNone && stops arg then .ok (s, arg :: rest)
    else
      match s.read c arg with
      | .ok s => scan c stops s rest
      | .error e => .error e

/-- The value of an option: the one given, else the one of the environment, else the fallback. -/
def valueOf (environment : String → Option String) (s : Scan) (o : OptionSpec) :
    Except ArgumentError (Option String) :=
  match s.values.lookup o.name, o.variableName.bind environment with
  | some value, _ => .ok (some value)
  | none, some value => if o.kind.accepts value then .ok (some value) else .error .unsuitableValue
  | none, none => .ok o.fallback

/-- Completes the last option, and fills in what was not given. -/
def finish (c : CommandSpec) (environment : String → Option String) (s : Scan) :
    Except ArgumentError Given := do
  let s ← s.settle
  let values ← c.options.mapM fun o => return (o, ← valueOf environment s o)
  if values.any fun (o, value) => o.required && value.isNone then throw .missingArgument
  if s.words.length < c.words.length then throw .missingArgument
  return ⟨values.filterMap fun (o, value) => value.map fun value => (o.name, value), s.words⟩

/-- Reads all arguments of a command. -/
def parse (c : CommandSpec) (environment : String → Option String) (args : List String) :
    Except ArgumentError Given := do
  let (s, _) ← scan c (fun _ => false) {} args
  finish c environment s

end CommandLine

end DocSearch
