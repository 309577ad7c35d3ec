import DocSearch.Http.Percent
/-!
# Addresses

* `Address` — the parts of a web address that a request is made of.
* `Address.parse?` — reads an address as browsers do: blanks around it are dropped, line ends and
  tabs inside it too, a backslash is a slash, and `.` and `..` in the path are followed.
* `Address.target` — path and query as they are sent; `Address.render` — the whole address.
-/

namespace DocSearch

/-- A web address. The path is a list of segments, each behind a slash. -/
structure Address where
  secure : Bool
  host : String
  path : List (List Char)
  query : Option (List Char) := none
deriving DecidableEq, Repr, Inhabited

namespace Address

/-- Characters that are written as percent codes everywhere. -/
def isControl (c : Char) : Bool := c.toNat < 0x20 || 0x7E < c.toNat

/-- Characters of a path that are written as percent codes. -/
def inPathSet (c : Char) : Bool :=
  isControl c || c = ' ' || c = '"' || c = '#' || c = '<' || c = '>' || c = '?' || c.toNat = 0x60 ||
    c = '\x7b' || c = '\x7d'

/-- Characters of a query that are written as percent codes. -/
def inQuerySet (c : Char) : Bool :=
  isControl c || c = ' ' || c = '"' || c = '#' || c = '<' || c = '>' || c = '\''

/-- A dot, plain or as a percent code, and what follows it. -/
def dropDot? : List Char → Option (List Char)
  | '.' :: rest => some rest
  | '%' :: '2' :: c :: rest => if c = 'e' ∨ c = 'E' then some rest else none
  | _ => none

/-- The segment stays where it is. -/
def isSingleDot (seg : List Char) : Bool := dropDot? seg == some []

/-- The segment leads one level up. -/
def isDoubleDot (seg : List Char) : Bool := (dropDot? seg).bind dropDot? == some []

/-- Follows the segments of a path from the levels `up`, the last level first. A path that ends in
dots ends in an empty segment. -/
def follow (up : List (List Char)) : List (List Char) → List (List Char)
  | [] => up.reverse
  | seg :: rest =>
    let up' :=
      if isDoubleDot seg then up.drop 1
      else if isSingleDot seg then up
      else Percent.encode inPathSet seg :: up
    if rest.isEmpty && (isDoubleDot seg || isSingleDot seg) then ([] :: up').reverse
    else follow up' rest

/-- The segments of a text that starts with a slash, or is empty. -/
def segments (cs : List Char) : List (List Char) :=
  follow [] ((cs.drop 1).splitOnP fun c => c == '/' || c == '\\')

/-- Drops control characters and spaces at both ends, line ends and tabs everywhere. -/
def tidy (cs : List Char) : List Char :=
  let blank (c : Char) : Bool := c.toNat ≤ 0x20
  let cs := ((cs.dropWhile blank).reverse.dropWhile blank).reverse
  cs.filter fun c => !(c = '\t' || c = '\n' || c = '\r')

/-- The scheme before the first colon, in lowercase, and what follows the slashes behind it. -/
def scheme? (cs : List Char) : Option (Bool × List Char) :=
  let (scheme, rest) := Percent.splitAt ':' cs
  let rest := rest.dropWhile fun c => c = '/' || c = '\\'
  match String.ofList (scheme.map Char.toLower) with
  | "http" => some (false, rest)
  | "https" => some (true, rest)
  | _ => none

/-- Reads the address of a web server and a resource on it. -/
def parse? (s : String) : Option Address := do
  let (secure, rest) ← scheme? (tidy s.toList)
  let ends (c : Char) : Bool := c = '/' || c = '\\' || c = '?' || c = '#'
  let host := rest.takeWhile (!ends ·)
  let rest := (rest.dropWhile (!ends ·)).takeWhile (· ≠ '#')
  let path := rest.takeWhile (· ≠ '?')
  let query := (rest.dropWhile (· ≠ '?')).tail?
  if host.isEmpty then none
  else some ⟨secure, .ofList host, segments path, query.map (Percent.encode inQuerySet)⟩

/-- The address with more names and values in its query. -/
def withPairs (a : Address) (pairs : List (String × String)) : Address :=
  let text := List.intercalate ['&']
    (pairs.map fun p => Percent.formEncode p.1 ++ ['='] ++ Percent.formEncode p.2)
  let query := match a.query with
    | some q => if q.isEmpty then text else q ++ ['&'] ++ text
    | none => text
  { a with query := some query }

/-- The path, each segment behind a slash. -/
def pathText (a : Address) : List Char := a.path.flatMap ('/' :: ·)

/-- Path and query as they are sent. -/
def target (a : Address) : String :=
  .ofList (a.pathText ++ (match a.query with
    | some q => '?' :: q
    | none => []))

/-- The whole address. -/
def render (a : Address) : String :=
  (if a.secure then "https://" else "http://") ++ a.host ++ a.target

/-- The text of an address without slashes at its end. -/
def trimSlashes (s : String) : String :=
  .ofList (s.toList.reverse.dropWhile (· = '/')).reverse

end Address

end DocSearch
