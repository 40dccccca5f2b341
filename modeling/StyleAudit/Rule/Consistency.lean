import StyleAudit.Rule.Session

/-!
# Consistency

Rules on the source as a whole: its encoding, one character for indentation, one kind of line
ending, and a closing brace at the end.
-/

namespace StyleAudit.Rule

/-- Reports lines whose bytes are not UTF-8. -/
def encoding (d : Document) : List Diagnostic :=
  (d.lines.filter fun l => !l.isUtf8).map fun l =>
    .of .encoding l.number "File is not UTF-8 encoded - Please save the file in UTF-8 format."

/-- Whether an indented line starts with a tab; `none` for a line that is blank or not
indented. -/
def indentedByTab? (l : Line) : Option Bool :=
  if l.trimmed.isEmpty then none
  else match l.text with
    | c :: _ => if Text.isBlank c then some (c == '\t') else none
    | [] => none

/-- Indented lines with the kind of their indentation. -/
def indentedLines (d : Document) : List (Nat × Bool) :=
  d.lines.filterMap fun l => (indentedByTab? l).map (l.number, ·)

/-- Reports indented lines that differ from the first indented line in starting with a tab. -/
def indentationChar (d : Document) : List Diagnostic :=
  match indentedLines d with
  | [] => []
  | (_, tab) :: rest =>
    (rest.filter fun l => l.2 != tab).map fun l =>
      .of .indentationChar l.1 "Inconsistent use of tabs and spaces for indentation."

/-- Reports the first line whose terminator differs from that of the first line; a line that the
end of the source ends does not count. -/
def lineEndings (d : Document) : List Diagnostic :=
  match d.lines.filter fun l => l.ending != .none with
  | [] => []
  | first :: rest =>
    ((rest.find? fun l => l.ending != first.ending).map fun l =>
      .of .lineEndings l.number
        "Inconsistent line endings found in the script. Use either CRLF or LF, not both.").toList

/-- Reports a last line that is no closing brace. -/
def closingBrace (d : Document) : List Diagnostic :=
  match d.lines.getLast? with
  | none => []
  | some l =>
    if l.trimmed == ['\x7d'] then []
    else
      [.of .closingBrace l.number
        ("Incorrect syntax at the end of the file. Expected '\x7d', found '" ++
          String.ofList l.trimmed ++ "'.")]

end StyleAudit.Rule
