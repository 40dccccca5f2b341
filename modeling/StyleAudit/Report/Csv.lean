import StyleAudit.Report.Basic

/-!
# Reports as comma-separated values

One record for each finding, behind a header; without findings there is no header either.  A
field that holds a comma, a quote or a line break stands between quotes, and quotes inside it
are doubled.
-/

namespace StyleAudit.Csv

/-- A character that makes a field be quoted. -/
def isSpecial (c : Char) : Bool := c == ',' || c == '"' || c == '\r' || c == '\n'

/-- A character inside a quoted field. -/
def escapeChar (c : Char) : List Char := if c == '"' then ['"', '"'] else [c]

/-- A field. -/
def field (t : List Char) : List Char :=
  if t.any isSpecial then '"' :: t.flatMap escapeChar ++ ['"'] else t

/-- A record. -/
def record (fields : List String) : List Char :=
  [','].intercalate (fields.map fun f => field f.toList) ++ ['\n']

/-- The names of the columns. -/
def header : List String := ["file", "line", "severity", "rule", "message"]

end StyleAudit.Csv

namespace StyleAudit.Report

/-- The fields of a finding. -/
def csvFields (path : Path) (d : Diagnostic) : List String :=
  [path.text, toString d.line, d.severity.name, d.rule.name, d.message]

/-- The records of several reports. -/
def csvRecords (reports : List Report) : List (List String) :=
  reports.flatMap fun r => r.diagnostics.map (csvFields r.path)

/-- Reports as comma-separated values. -/
def csv (reports : List Report) : String :=
  match csvRecords reports with
  | [] => ""
  | records => String.ofList ((Csv.header :: records).flatMap Csv.record)

end StyleAudit.Report
