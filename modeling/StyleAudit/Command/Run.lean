import StyleAudit.Audit
import StyleAudit.Command.Args
import StyleAudit.Mail.Smtp
import StyleAudit.Report.Csv
import StyleAudit.Report.Json
import StyleAudit.Report.Table
import StyleAudit.Report.Yaml
import StyleAudit.Settings.Load

/-!
# The program

What the command line does, as a function from the world it meets to the lines it prints, its
exit code and the disk it leaves behind.
-/

namespace StyleAudit

/-- What the program meets. -/
structure World where
  /-- The disk. -/
  disk : Disk
  /-- The environment variables. -/
  env : Environment
  /-- The clock, while the first source is audited, the second one, and so on. -/
  clocks : Nat → Clock
  /-- The tools at hand. -/
  tools : Tools
  /-- The servers within reach. -/
  network : Network
  /-- The directory for programs that are compiled; nothing is there. -/
  buildDir : Path

/-- What the program leaves behind. -/
structure Completion where
  /-- What it printed. -/
  stdout : String := ""
  /-- The lines of its complaints. -/
  stderr : List String := []
  /-- Its exit code. -/
  code : Nat := 0
  /-- The disk. -/
  disk : Disk

namespace Completion

/-- The exit code of a program in which a count overflows. -/
def overflowCode : Nat := 101

/-- Ends with an overflow.  What the system says about it is left out. -/
def ofOverflow (d : Disk) (warnings : List String) : Completion where
  stderr := warnings
  code := overflowCode
  disk := d

/-- Ends with a failure and what the user may try. -/
def ofFailure (d : Disk) (warnings : List String) (e : Failure) : Completion where
  stderr := warnings ++ e.suggestions.map ("  hint: " ++ ·) ++ ["   0: " ++ e.message]
  code := 1
  disk := d

/-- The exit code of a usage error. -/
def usageCode : UsageError → Nat
  | .helpRequested => 0
  | .versionRequested => 0
  | _ => 2

end Completion

/-- A text as a line of its own. -/
def asLine (s : String) : String := s ++ "\n"

namespace Outcome

/-- The path of the log. -/
def logLine (o : Outcome) : String := asLine ("Log: " ++ o.log.text)

/-- The counts of a source as a table. -/
def tableText (o : Outcome) : String :=
  asLine o.report.path.text ++ asLine o.report.countsTable.draw ++ o.logLine

/-- The summary of a source. -/
def summaryText (o : Outcome) : String := asLine o.report.path.text ++ o.report.summary ++ o.logLine

/-- Warns that the mail was not delivered. -/
def warning? (o : Outcome) : Option String :=
  match o.delivery with
  | .failed message =>
    some ("Warning: " ++ message ++ " (log kept at " ++ o.log.text ++ ")")
  | _ => none

end Outcome

/-- The outcomes in a format. -/
def Format.show (f : Format) (outcomes : List Outcome) : String :=
  let reports := outcomes.map (·.report)
  match f with
  | .table =>
    asLine (Report.findingsTable reports).draw ++ String.join (outcomes.map (·.tableText)) ++
      asLine (Report.summaryLine reports)
  | .summary => String.join (outcomes.map (·.summaryText))
  | .json => asLine (Report.json reports)
  | .yaml => Report.yaml reports
  | .csv => Report.csv reports

namespace Auditor

/-- Audits sources one after the other.  The first fault ends the series; what was done before
it stays done. -/
def runAll (a : Auditor) (clocks : Nat → Clock) (d : Disk) (done : List Outcome) :
    List Path → (List Outcome × Option Fault) × Disk
  | [] => ((done, none), d)
  | p :: rest =>
    match a.run d (clocks done.length) p with
    | (.error e, d) => ((done, some e), d)
    | (.ok o, d) => a.runAll clocks d (done ++ [o]) rest

end Auditor

namespace Command

/-- The name and the version of the program. -/
def version : String := "scriptlint 0.1.0"

/-- The format that the settings name. -/
def formatOf (g : General) : Except String Format :=
  match g.output with
  | none => .ok .table
  | some name =>
    match Format.parse? name with
    | some f => .ok f
    | none => .error ("unknown output format '" ++ name ++ "' in general.output")

/-- The auditor for some settings; mail is sent if a server can be used. -/
def auditorFor (w : World) (s : Settings) : Auditor :=
  { Auditor.ofSettings s w.tools w.buildDir with
    transport :=
      if s.mail.isConfigured then
        (Smtp.ofSettings w.env s.mail).toOption.map fun server => server.deliver w.network
      else none }

/-- Audits the given sources and shows the outcomes. -/
def audit (w : World) (s : Settings) (f : Format) (failOnIssues : Bool) (files : List Path) :
    Completion :=
  let ((outcomes, fault), disk) := (auditorFor w s).runAll w.clocks w.disk [] files
  let warnings := outcomes.filterMap (·.warning?)
  match fault with
  | some (.failure e) => .ofFailure disk warnings e
  | some .overflow => .ofOverflow disk warnings
  | none =>
    { stdout := f.show outcomes
      stderr := warnings
      code := if failOnIssues && outcomes.any (·.report.hasIssues) then 1 else 0
      disk }

/-- Carries out a check. -/
def runCheck (w : World) (args : CheckArgs) : Completion :=
  match w.disk.loadSettings args.config with
  | .error e => .ofFailure w.disk [] e
  | .ok found =>
    let settings := args.override ((found.map (·.2)).getD {})
    match formatOf settings.general with
    | .error message => { stderr := ["   0: " ++ message], code := 1, disk := w.disk }
    | .ok format =>
      match w.disk.expand args.paths with
      | .error e => .ofFailure w.disk [] e
      | .ok [] =>
        { stderr := ["Error: no source files found under the given paths"]
          code := 1
          disk := w.disk }
      | .ok files => audit w settings format args.failOnIssues files

/-- Carries out a command line. -/
def run (w : World) (args : List String) : Completion :=
  match parse args with
  | .error e =>
    { stdout := if e = .versionRequested then asLine version else ""
      code := Completion.usageCode e
      disk := w.disk }
  | .ok .rules => { stdout := asLine (Report.rulesTable RuleId.all).draw, disk := w.disk }
  | .ok (.check checkArgs) => runCheck w checkArgs

end Command

end StyleAudit
