/-!
# Lines of a text

A line of a text ends at a line feed; one carriage return directly before the line feed belongs
to the end of the line.  What follows the last line feed is a line only if it is not empty.
-/

namespace StyleAudit.Text

/-- A line without the carriage return it ends in. -/
def dropReturn (t : List Char) : List Char :=
  if t.getLast? == some '\r' then t.dropLast else t

/-- Cuts a text at its line feeds.  `line` holds the line under construction, reversed. -/
def linesFrom (line : List Char) : List Char → List (List Char)
  | [] => if line.isEmpty then [] else [line.reverse]
  | c :: t =>
    if c = '\n' then dropReturn line.reverse :: linesFrom [] t else linesFrom (c :: line) t

/-- The lines of a text, without their terminators. -/
def lines (t : List Char) : List (List Char) := linesFrom [] t

/-- Cuts a text at every occurrence of a separator; `n` separators give `n + 1` parts. -/
def splitAtChar (sep : Char) : List Char → List (List Char)
  | [] => [[]]
  | c :: t =>
    if c = sep then [] :: splitAtChar sep t
    else match splitAtChar sep t with
      | [] => [[c]]
      | part :: parts => (c :: part) :: parts

end StyleAudit.Text
