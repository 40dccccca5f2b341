import StyleAudit.Report.Basic

/-!
# Summaries

The block of text that closes a log, and the line that closes the output on a terminal.
-/

namespace StyleAudit.Report

/-- A text filled up with spaces to a width. -/
def padded (width : Nat) (s : String) : String :=
  s ++ String.ofList (List.replicate (width - s.length) ' ')

/-- The line above and below a summary. -/
def ruler : String := "---------------------------------------------\n"

/-- A row of the summary. -/
def summaryRow (name : String) (count : String) : String :=
  "  " ++ padded 32 name ++ count ++ "\n"

/-- The rules with findings and how many they have, in catalog order. -/
def issueCounts (report : Report) : List (RuleId × Nat) := report.counts.filter (0 < ·.2)

/-- The summary that closes a log. -/
def summary (report : Report) : String :=
  ruler ++
    (if report.hasIssues then
      "Summary of issues observed:\n" ++ summaryRow "Check" "Count" ++
        String.join (report.issueCounts.map fun c => summaryRow c.1.name (toString c.2))
    else "No issues found after analyzing the script.\n") ++
    ruler

/-- The ending of a counted noun. -/
def plural (n : Nat) : String := if n == 1 then "" else "s"

/-- A count and its noun. -/
def counted (n : Nat) (noun : String) : String := toString n ++ " " ++ noun ++ plural n

/-- A number taken from each of several reports, added up. -/
def total (f : Report → Nat) : List Report → Nat
  | [] => 0
  | r :: rest => f r + total f rest

/-- The number of findings of a severity in several reports. -/
def totalSeverity (reports : List Report) (s : Severity) : Nat :=
  total (·.countSeverity s) reports

/-- The number of failures in several reports. -/
def totalFailures (reports : List Report) : Nat :=
  total (·.failures.length) reports

/-- The line that sums several reports up. -/
def summaryLine (reports : List Report) : String :=
  let errors := totalSeverity reports .error
  let warnings := totalSeverity reports .warning
  let failed := totalFailures reports
  counted (errors + warnings) "issue" ++ " (" ++ counted errors "error" ++ ", " ++
    counted warnings "warning" ++ ") in " ++ counted reports.length "file" ++
    (if failed == 0 then "" else "; " ++ counted failed "check" ++ " could not run")

end StyleAudit.Report
