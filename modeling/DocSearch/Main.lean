import DocSearch.Console.Basic
import DocSearch.Json.Printer
/-!
# The command line

The console opens no connection itself. Whoever starts it carries its request to the service: the
request is one line of JSON on the standard output, the reply one line on the standard input. No
reply means that the service cannot be reached. What the console shows follows.
-/

namespace DocSearch

/-- Hands out a request as a line, and takes in the reply. -/
def carryRequest (r : WireRequest) : IO (Option WireReply) := do
  let output ← IO.getStdout
  output.putStrLn r.toJson.render
  output.flush
  let line ← (← IO.getStdin).getLine
  return (Form.parse? (Text.bytes line)).bind WireReply.read

end DocSearch

/-- Does what the command line says. -/
def main (args : List String) : IO UInt32 := do
  let variableName := "DOCSEARCH_API_URL"
  let value ← IO.getEnv variableName
  let environment (name : String) : Option String := if name = variableName then value else none
  let ending ← (DocSearch.Console.run environment "docsearch" args).runM DocSearch.carryRequest
  (← IO.getStdout).putStr ending.output
  (← IO.getStderr).putStr ending.errors
  return ending.exit.toUInt32
