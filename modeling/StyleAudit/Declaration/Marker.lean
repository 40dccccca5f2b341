import StyleAudit.Count
import StyleAudit.Declaration.Scan
import StyleAudit.Text.Lines
import StyleAudit.Text.Numeral

/-!
# Line markers

A preprocessor writes markers such as `# 12 "main.c"` into its output; they say which line of
which file follows.  `Marker.locate` keeps the lines that belong to the source, each with its
number there.  Numbers are counts, and there is no counting beyond the greatest of them.
-/

namespace StyleAudit

/-- A marker: the digits of the line number as written, and the file. -/
structure Marker where
  /-- Decimal digits of any script. -/
  digits : List Char
  /-- The text between the quotes. -/
  file : List Char

namespace Marker

open Text

/-- Reads a marker at the front of a line; what follows the closing quote does not count. -/
def read? (t : List Char) : Option Marker :=
  match t with
  | '#' :: rest =>
    let rest := trimStart rest
    let rest := (Declaration.readKeyword ["line"] rest).getD rest
    let digits := rest.takeWhile isDecimal
    let after := rest.dropWhile isDecimal
    if digits.isEmpty || !(after.head?.any isBlank) then none
    else match trimStart after with
      | '"' :: quoted =>
        let file := quoted.takeWhile (· != '"')
        if quoted.contains '"' then some ⟨digits, file⟩ else none
      | _ => none
  | _ => none

/-- The value of ASCII digits, if it is a count. -/
def number? (digits : List Char) : Option Nat :=
  (Text.natOfDigits? 10 digits).filter (· < countBound)

/-- The marker names the source: the same text, or a path with the same components. -/
def names (m : Marker) (source : Path) : Bool :=
  m.file == source.text.toList || decide (Path.Same ⟨String.ofList m.file⟩ source)

/-- Keeps the lines of the source.  `next` is the number of the next line, and `here` tells
whether it belongs to the source.  Nothing comes of it if the number behind a line is no count. -/
def locateFrom (source : Path) (next : Nat) (here : Bool) :
    List (List Char) → Option (List (Nat × List Char))
  | [] => some []
  | line :: rest =>
    match read? line with
    | some m => locateFrom source ((number? m.digits).getD next) (m.names source) rest
    | none =>
      if next + 1 < countBound then
        (locateFrom source (next + 1) here rest).map fun later =>
          if here && !(trim line).isEmpty then (next, line) :: later else later
      else none

/-- The lines of the output that belong to the source, with their numbers there, unless the
numbers overflow.  Output without markers is the source itself. -/
def locate (output : List Char) (source : Path) : Option (List (Nat × List Char)) :=
  locateFrom source 1 true (lines output)

end Marker

end StyleAudit
