/-!
# Lines of a text

A line ends with a line feed, or with a carriage return and a line feed. The end is not part of the
line, and a text that ends with one has no empty line after it.
-/

namespace ProxySettings.Text

/-- A line without the carriage return at its end. -/
def dropReturn (line : List Char) : List Char :=
  match line.getLast? with
  | some '\r' => line.dropLast
  | _ => line

/-- Lines of a character list; `line` holds the current line's characters, last one first. -/
def linesFrom (line : List Char) : List Char → List (List Char)
  | [] => if line.isEmpty then [] else [line.reverse]
  | '\n' :: rest => dropReturn line.reverse :: linesFrom [] rest
  | c :: rest => linesFrom (c :: line) rest

/-- The lines of a text without their ends. -/
def lines (s : String) : List String := (linesFrom [] s.toList).map String.ofList

end ProxySettings.Text
