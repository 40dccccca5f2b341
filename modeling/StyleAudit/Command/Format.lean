import StyleAudit.Source.Language

/-!
# Formats of the output

How the reports are shown on a terminal.  A configuration file names a format in letters of any
case.
-/

namespace StyleAudit

/-- A format of the output. -/
inductive Format where
  /-- Findings and counts as tables. -/
  | table
  /-- The summary of each source. -/
  | summary
  /-- All reports in JSON. -/
  | json
  /-- All reports in YAML. -/
  | yaml
  /-- One row for each finding. -/
  | csv
  deriving DecidableEq

namespace Format

/-- Every format. -/
def all : List Format := [.table, .summary, .json, .yaml, .csv]

/-- The name of a format. -/
def name : Format → String
  | .table => "table"
  | .summary => "summary"
  | .json => "json"
  | .yaml => "yaml"
  | .csv => "csv"

/-- The format with exactly this name. -/
def ofName? (s : String) : Option Format := all.find? (·.name == s)

/-- The format with this name in letters of any case. -/
def parse? (s : String) : Option Format := ofName? (lowered s.toList)

end Format

end StyleAudit
