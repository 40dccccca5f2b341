import StyleAudit.Report.Basic
import StyleAudit.Rule.Check
import StyleAudit.Text.Quoted

/-!
# Batteries of checks

A battery is a list of checks.  It runs each check that applies to the language of the document,
in order and in one session; a check that fails is recorded and does not stop the others.
Findings on lines that the document does not have are dropped.  A check in which a count overflows
ends the program, so that there is no report.
-/

namespace StyleAudit

/-- Checks in the order in which they run. -/
abbrev Battery := List Check

namespace Battery

/-- The rules that always run, in catalog order. -/
def standard (probe : LeakProbe) : Battery := RuleId.standard.map (Check.catalog probe)

/-- Every rule, in catalog order. -/
def catalog (probe : LeakProbe) : Battery := RuleId.all.map (Check.catalog probe)

/-- The rules that the settings ask for. -/
def ofSettings (s : Settings) (probe : LeakProbe) : Battery :=
  if s.leakCheck.enabled then catalog probe else standard probe

/-- The findings on lines of a document. -/
def inRange (d : Document) (found : List Diagnostic) : List Diagnostic :=
  found.filter fun f => 1 ≤ f.line && f.line ≤ d.size

/-- Runs checks on a document, behind those that `report` tells of. -/
def runFrom (d : Document) (report : Report) (s : Session) : Battery → Option Report × Session
  | [] => (some report, s)
  | c :: rest =>
    if !c.applies d.language then runFrom d report s rest
    else match c.evaluate d s with
      | (.ok found, s) => runFrom d (report.record c.rule (inRange d found)) s rest
      | (.error (.failure e), s) => runFrom d (report.recordFailure c.rule e) s rest
      | (.error .overflow, s) => (none, s)

/-- Runs the checks on a document.  There is a report unless a count overflows. -/
def run (b : Battery) (d : Document) (s : Session) : Option Report × Session :=
  runFrom d (.start d.path) s b

end Battery

/-- The description of a session for people. -/
def Session.describe (s : Session) : String :=
  "RuleContext \x7b language: " ++ s.language.name ++ ", module_prefix: " ++
    (match s.established with
      | some m => "Some(" ++ Text.quoted (String.ofList m) ++ ")"
      | none => "None") ++
    ", depth: " ++ toString s.nesting.depth ++ ", inside_function: " ++
    toString s.nesting.inside ++ ", .. \x7d"

end StyleAudit
