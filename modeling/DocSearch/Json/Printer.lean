import DocSearch.Binary64.Decimal
import DocSearch.Json.Basic
/-!
# JSON text of a value

* `Json.quote` — a text as a JSON string. Quotes, backslashes and control characters are escaped,
  all else stands as it is.
* `Json.render` — a value without any blanks.
-/

namespace DocSearch.Json

/-- The lowercase hexadecimal digit of a number below 16. -/
def hexDigit (n : Nat) : Char := if n < 10 then Char.ofNat (48 + n) else Char.ofNat (87 + n)

/-- One character inside a JSON string. -/
def escapeChar (c : Char) : List Char :=
  if c = '"' then ['\\', '"']
  else if c = '\\' then ['\\', '\\']
  else if c = '\x08' then ['\\', 'b']
  else if c = '\x0c' then ['\\', 'f']
  else if c = '\n' then ['\\', 'n']
  else if c = '\r' then ['\\', 'r']
  else if c = '\t' then ['\\', 't']
  else if c.toNat < 0x20 then
    ['\\', 'u', '0', '0', hexDigit (c.toNat / 16), hexDigit (c.toNat % 16)]
  else [c]

/-- The characters of a text as they stand inside a JSON string. -/
def escape (cs : List Char) : List Char := cs.flatMap escapeChar

/-- The text as a JSON string. -/
def quote (s : String) : String := .ofList ('"' :: escape s.toList ++ ['"'])

/-- The text of a number. -/
def renderNumber : JsonNumber → String
  | .int n => toString n
  | .real x => x.render

mutual

/-- The text of a value. -/
def render : Json → String
  | .null => "null"
  | .bool b => if b then "true" else "false"
  | .num n => renderNumber n
  | .str s => quote s
  | .arr items => "[" ++ renderItems items ++ "]"
  | .obj fields => "\x7b" ++ renderFields fields ++ "\x7d"

/-- The texts of the items of an array, between commas. -/
def renderItems : List Json → String
  | [] => ""
  | [x] => render x
  | x :: xs => render x ++ "," ++ renderItems xs

/-- The texts of the fields of an object, between commas. -/
def renderFields : List (String × Json) → String
  | [] => ""
  | [(name, x)] => quote name ++ ":" ++ render x
  | (name, x) :: fields => quote name ++ ":" ++ render x ++ "," ++ renderFields fields

end

end DocSearch.Json
