import StyleAudit.Count
import StyleAudit.Rule.Session

/-!
# Layout

Rules on the length of a source and on blanks: tabs, indentation by depth, spaces between words
and at the ends of lines.
-/

namespace StyleAudit.Rule

/-- Reports a document with more lines than allowed, on the first line too many. -/
def totalLines (t : Thresholds) (d : Document) : List Diagnostic :=
  if d.size ≤ t.maxLines then []
  else
    [.of .totalLines (t.maxLines + 1)
      ("Total number of lines (" ++ toString d.size ++
        ") exceeds the recommended maximum of " ++ toString t.maxLines ++ " lines.")]

/-- Reports lines with a tab. -/
def indentationTabs (d : Document) : List Diagnostic :=
  (d.lines.filter fun l => l.text.contains '\t').map fun l =>
    .of .indentationTabs l.number "TAB space used. Convert TABs to spaces."

/-! ### Indentation -/

/-- The number of spaces a text starts with. -/
def leadingSpaces (t : List Char) : Nat := (t.takeWhile (· == ' ')).length

/-- The depth at which the indentation of a line is measured, if it is measured.  A line with a
keyword is measured at the depth before it, any other line of a body at the depth after it.  A brace
by itself is not measured. -/
def measuredDepth? (l : Line) : LineEvent → Option Nat
  | .keyword _ depth => some depth
  | .body depth => if l.trimmed = ['\x7b'] ∨ l.trimmed = ['\x7d'] then none else some depth
  | _ => none

/-- The words on a line that is not indented enough. -/
def indentationMessage : LineEvent → String
  | .keyword word _ => "Incorrect indentation for " ++ word ++ " statement."
  | _ => "Incorrect indentation."

/-- What is wrong with the indentation of a line, given its event. -/
def indentationProblem (width : Nat) (l : Line) (e : LineEvent) : Option String :=
  (measuredDepth? l e).bind fun depth =>
    if leadingSpaces l.text < width * depth then some (indentationMessage e) else none

/-- The spaces asked for on each measured line are a count. -/
def indentationFits (width : Nat) (d : Document) (events : List LineEvent) : Bool :=
  (d.lines.zip events).all fun (l, e) => (measuredDepth? l e).all (width * · < countBound)

/-- Reports lines of function bodies that are not indented by their depth. -/
def indentationSpacing (width : Nat) (d : Document) (events : List LineEvent) :
    List Diagnostic :=
  (d.lines.zip events).filterMap fun (l, e) =>
    (indentationProblem width l e).map (.of .indentationSpacing l.number ·)

/-! ### Spaces between words and at the end -/

/-- Reports lines of code with two spaces in a row. -/
def excessWhitespace (d : Document) : List Diagnostic :=
  (d.lines.filter fun l => !l.isBlankOrComment && Text.occursIn [' ', ' '] l.trimmed).map fun l =>
    .of .excessWhitespace l.number
      ("Excess whitespace detected: '" ++ String.ofList l.trimmed ++
        "' has more than one space between words.")

/-- Reports lines that end in a space or tab. -/
def trailingWhitespace (d : Document) : List Diagnostic :=
  (d.lines.filter fun l => Text.endsIn ' ' l.text || Text.endsIn '\t' l.text).map fun l =>
    .of .trailingWhitespace l.number "Line ends with whitespace."

end StyleAudit.Rule
