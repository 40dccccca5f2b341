import StyleAudit.Rule.Catalog
import StyleAudit.Failure

/-!
# Reports

The result of auditing one source: the findings in the order in which the rules ran, how many
each rule has, and the rules that failed.  Counts are kept in catalog order and only for rules
that ran, so that a rule without findings can be told from one that did not run.
-/

namespace StyleAudit

/-- A rule that failed. -/
structure RuleFailure where
  /-- The rule. -/
  rule : RuleId
  /-- The message of its failure. -/
  message : String
  deriving DecidableEq

/-- The result of auditing a source. -/
structure Report where
  /-- The source. -/
  path : Path
  /-- The number of findings of each rule that ran, in catalog order. -/
  counts : List (RuleId × Nat) := []
  /-- The findings. -/
  diagnostics : List Diagnostic := []
  /-- Whether there are findings. -/
  hasIssues : Bool := false
  /-- The rules that failed. -/
  failures : List RuleFailure := []
  deriving DecidableEq

namespace Report

/-- Adds to the count of a rule; counts stay in catalog order. -/
def addCount (r : RuleId) (n : Nat) : List (RuleId × Nat) → List (RuleId × Nat)
  | [] => [(r, n)]
  | (r', n') :: rest =>
    if r' = r then (r', n' + n) :: rest
    else if r.rank < r'.rank then (r, n) :: (r', n') :: rest
    else (r', n') :: addCount r n rest

/-- The report before any rule. -/
def start (path : Path) : Report := { path }

/-- Records the findings of a rule. -/
def record (report : Report) (r : RuleId) (found : List Diagnostic) : Report :=
  { report with
    counts := addCount r found.length report.counts
    diagnostics := report.diagnostics ++ found
    hasIssues := report.hasIssues || !found.isEmpty }

/-- Records the failure of a rule. -/
def recordFailure (report : Report) (r : RuleId) (e : Failure) : Report :=
  { report with failures := report.failures ++ [⟨r, e.message⟩] }

/-- The count of a rule that ran. -/
def count? (report : Report) (r : RuleId) : Option Nat := report.counts.lookup r

/-- The count of a rule, zero if it did not run. -/
def count (report : Report) (r : RuleId) : Nat := (report.count? r).getD 0

/-- The number of findings of a severity. -/
def countSeverity (report : Report) (s : Severity) : Nat :=
  (report.diagnostics.filter (·.severity == s)).length

end Report

end StyleAudit
