import StyleAudit.Report.Summary
import StyleAudit.Text.Columns
import StyleAudit.Text.Lines

/-!
# Tables

Tables in boxes for the terminal.  A cell may hold several lines; each column is as wide as its
widest line, and a rule separates all rows.  The tables are lists of rows before they are drawn.
-/

namespace StyleAudit

/-- A table: its title row and its rows, all of one length. -/
structure Table where
  /-- The titles of the columns. -/
  titles : List String
  /-- The rows. -/
  rows : List (List String)

namespace Table

/-- The lines of a cell. -/
def cellLines (cell : String) : List (List Char) := Text.lines cell.toList

/-- The width of a cell. -/
def cellWidth (cell : String) : Nat :=
  ((cellLines cell).map Text.shownColumns).foldl max 0

/-- The greater width, column by column. -/
def widen (widths : List Nat) (row : List String) : List Nat :=
  List.zipWith (fun w cell => max w (cellWidth cell)) widths row

/-- The widths of the columns. -/
def widths (t : Table) : List Nat :=
  t.rows.foldl widen (t.titles.map cellWidth)

/-- The characters of a horizontal rule. -/
structure Ruling where
  /-- Along a column. -/
  line : Char
  /-- Between columns. -/
  junction : Char
  /-- At the left end. -/
  left : Char
  /-- At the right end. -/
  right : Char

/-- Above the titles. -/
def top : Ruling := ⟨'─', '┬', '┌', '┐'⟩

/-- Below the titles. -/
def below : Ruling := ⟨'═', '╪', '╞', '╡'⟩

/-- Between rows. -/
def between : Ruling := ⟨'─', '┼', '├', '┤'⟩

/-- Below the last row. -/
def bottom : Ruling := ⟨'─', '┴', '└', '┘'⟩

/-- A horizontal rule. -/
def drawRule (widths : List Nat) (r : Ruling) : List Char :=
  r.left :: [r.junction].intercalate (widths.map fun w => List.replicate (w + 2) r.line) ++
    [r.right, '\n']

/-- One line of a cell, filled up to the width of its column. -/
def drawLine (width : Nat) (line : List Char) : List Char :=
  ' ' :: line ++ List.replicate (width - Text.shownColumns line) ' ' ++ [' ']

/-- The line of a row with a given index. -/
def drawRowLine (widths : List Nat) (cells : List (List (List Char))) (i : Nat) : List Char :=
  '│' :: ['│'].intercalate
    (List.zipWith (fun w lines => drawLine w (lines.getD i [])) widths cells) ++ ['│', '\n']

/-- A row, as high as its highest cell and at least one line. -/
def drawRow (widths : List Nat) (row : List String) : List Char :=
  let cells := row.map cellLines
  let height := (cells.map List.length).foldl max 1
  (List.range height).flatMap (drawRowLine widths cells)

/-- Rows with rules between them. -/
def drawRows (widths : List Nat) (rows : List (List String)) : List Char :=
  (drawRule widths between).intercalate (rows.map (drawRow widths))

/-- Draws a table. -/
def draw (t : Table) : String :=
  let widths := t.widths
  String.ofList
    (drawRule widths top ++ drawRow widths t.titles ++ drawRule widths below ++
      drawRows widths t.rows ++ drawRule widths bottom)

end Table

namespace Report

/-- The label of a severity in a table. -/
def severityLabel : Severity → String
  | .error => "ERR"
  | .warning => "WARN"

/-- The longest message that a table shows in full. -/
def maxMessage : Nat := 60

/-- A message cut to the width of a table. -/
def shortened (message : String) : String :=
  if maxMessage < message.length then
    String.ofList (message.toList.take (maxMessage - 3)) ++ "..."
  else message

/-! ### Findings -/

/-- A finding with the source it is about. -/
abbrev Located := Path × Diagnostic

/-- The findings of several reports, in their order. -/
def located (reports : List Report) : List Located :=
  reports.flatMap fun r => r.diagnostics.map (r.path, ·)

/-- The order of findings in a table: errors first, then by path, line and rule. -/
def compareLocated (a b : Located) : Ordering :=
  (compare b.2.severity.rank a.2.severity.rank).then
    ((a.1.compare b.1).then
      ((compare a.2.line b.2.line).then (compare a.2.rule.rank b.2.rule.rank)))

/-- The findings in the order of the table; findings that compare equal keep their order. -/
def sortedFindings (reports : List Report) : List Located :=
  (located reports).mergeSort fun a b => (compareLocated a b).isLE

/-- The row of a finding. -/
def findingRow (f : Located) : List String :=
  [severityLabel f.2.severity, f.2.rule.name, f.1.text ++ ":" ++ toString f.2.line,
    shortened f.2.message]

/-- The row of a failure. -/
def failureRow (path : Path) (f : RuleFailure) : List String :=
  ["FAIL", f.rule.name, path.text, shortened f.message]

/-- The rows of failures, in the order of the reports. -/
def failureRows (reports : List Report) : List (List String) :=
  reports.flatMap fun r => r.failures.map (failureRow r.path)

/-- The table of all findings, failures, and the summary if there are findings. -/
def findingsTable (reports : List Report) : Table where
  titles := ["Severity", "Rule", "Location", "Issue"]
  rows :=
    (sortedFindings reports).map findingRow ++ failureRows reports ++
      (if (located reports).isEmpty then []
      else [["Summary: " ++ summaryLine reports, "", "", ""]])

/-! ### Counts and rules -/

/-- What the table of counts shows for a rule. -/
def countCell (report : Report) (r : RuleId) : String :=
  match report.count? r with
  | some n => toString n
  | none => "-"

/-- The table of counts of one report, with every rule of the catalog. -/
def countsTable (report : Report) : Table where
  titles := ["Check", "Rule", "Count"]
  rows := RuleId.all.map fun r => [r.title, r.name, report.countCell r]

/-- The table of some rules. -/
def rulesTable (rules : List RuleId) : Table where
  titles := ["Rule", "Title", "Severity", "Languages", "Description"]
  rows := rules.map fun r =>
    [r.name, r.title, severityLabel r.severity,
      if r.appliesTo .perl then "all" else "C/C++", r.description]

end Report

end StyleAudit
