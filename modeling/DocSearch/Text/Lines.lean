/-!
# Lines

* `Text.lines` — the lines of a text. A line ends with a line feed, and a carriage return before it
  belongs to the end; the last line may lack its end.
-/

namespace DocSearch.Text

/-- The line less a carriage return at its end. -/
def dropReturn (line : List Char) : List Char :=
  match line.reverse with
  | '\r' :: cs => cs.reverse
  | _ => line

/-- The lines of a text, whose current line starts with `acc`, read backwards. -/
def linesFrom (acc : List Char) : List Char → List (List Char)
  | [] => if acc.isEmpty then [] else [acc.reverse]
  | c :: cs =>
    if c = '\n' then dropReturn acc.reverse :: linesFrom [] cs else linesFrom (c :: acc) cs

/-- The lines of a text. -/
def lines (s : String) : List String := (linesFrom [] s.toList).map String.ofList

end DocSearch.Text
