import StyleAudit.Report.Basic
import StyleAudit.Report.YamlScalar

/-!
# Reports as YAML

Reports are a list of mappings.  Levels are indented by two spaces, and a list inside a mapping
starts in the column of its key.
-/

namespace StyleAudit.Report

open Yaml

/-- Spaces. -/
def spaces (n : Nat) : List Char := List.replicate n ' '

/-- A key and a text. -/
def yamlText (column : Nat) (key : String) (value : String) : List Char :=
  key.toList ++ [':', ' '] ++ scalar (column + 2) value

/-- A finding as an item of the list in column 2. -/
def yamlDiagnostic (d : Diagnostic) : List Char :=
  "  - line: ".toList ++ (toString d.line).toList ++ "\n    severity: ".toList ++
    d.severity.name.toList ++ "\n    rule: ".toList ++ d.rule.name.toList ++ ['\n'] ++
    spaces 4 ++ yamlText 4 "message" d.message

/-- A failure as an item of the list in column 2. -/
def yamlFailure (f : RuleFailure) : List Char :=
  "  - rule: ".toList ++ f.rule.name.toList ++ ['\n'] ++ spaces 4 ++
    yamlText 4 "message" f.message

/-- A key and the items below it; `none` is written for no items. -/
def yamlItems (key : String) (none : String) (item : α → List Char) (items : List α) :
    List Char :=
  spaces 2 ++ key.toList ++ [':'] ++
    (if items.isEmpty then ' ' :: none.toList ++ ['\n'] else '\n' :: items.flatMap item)

/-- A report as an item of the list of reports. -/
def yamlReport (report : Report) : List Char :=
  ['-', ' '] ++ yamlText 2 "path" report.path.text ++
    yamlItems "per_rule_counts" "\x7b\x7d"
      (fun c => spaces 4 ++ c.1.name.toList ++ [':', ' '] ++ (toString c.2).toList ++ ['\n'])
      report.counts ++
    yamlItems "diagnostics" "[]" yamlDiagnostic report.diagnostics ++
    "  overall_issue_flag: ".toList ++ (toString report.hasIssues).toList ++ ['\n'] ++
    yamlItems "failures" "[]" yamlFailure report.failures

/-- Reports as YAML. -/
def yaml (reports : List Report) : String :=
  if reports.isEmpty then "[]\n" else String.ofList (reports.flatMap yamlReport)

end StyleAudit.Report
