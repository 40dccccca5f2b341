import StyleAudit.Collection
import StyleAudit.Moment
import StyleAudit.Report.Summary
import StyleAudit.Settings.Basic
import StyleAudit.Text.Utf8

/-!
# Logs

Each audit leaves a log: entries for every finding and every rule, and then the summary.  A log
never replaces another one; if its name is taken, a number is added to it.  `Report.logEntries`
tells what is written, and the operations on disks write it.
-/

namespace StyleAudit

/-- The level of an entry. -/
inductive LogLevel where
  /-- Progress. -/
  | info
  /-- A finding of style. -/
  | warning
  /-- An error, a rule that failed, or a mail that was not delivered. -/
  | error
  deriving DecidableEq

namespace LogLevel

/-- The level as it is written. -/
def label : LogLevel → String
  | .info => "INFO"
  | .warning => "WARNING"
  | .error => "ERROR"

/-- The level of a finding. -/
def ofSeverity : Severity → LogLevel
  | .warning => .warning
  | .error => .error

end LogLevel

/-- An entry of a log. -/
structure LogEntry where
  /-- Its level. -/
  level : LogLevel
  /-- Its message. -/
  message : String
  deriving DecidableEq

namespace LogEntry

/-- The entry as it is written at a moment. -/
def render (e : LogEntry) (now : Moment) : String :=
  now.stamp ++ " - " ++ e.level.label ++ " - " ++ e.message ++ "\n"

/-- The entry of a finding. -/
def ofDiagnostic (d : Diagnostic) : LogEntry := ⟨.ofSeverity d.severity, d.render⟩

/-- The entry of a rule that failed. -/
def ofFailure (f : RuleFailure) : LogEntry := ⟨.error, "[" ++ f.rule.name ++ "] " ++ f.message⟩

/-- The entry that closes the findings of a rule. -/
def ofCount (r : RuleId) (n : Nat) : LogEntry :=
  ⟨.info, r.title ++ " completed - Count: " ++ toString n⟩

/-- The first entry. -/
def opening : LogEntry := ⟨.info, "Starting Script Analysis."⟩

/-- The last entry. -/
def closing : LogEntry := ⟨.info, "Script Analysis completed."⟩

end LogEntry

namespace Report

/-- The findings of a rule, in the order of the report. -/
def findingsOf (report : Report) (r : RuleId) : List Diagnostic :=
  report.diagnostics.filter (·.rule == r)

/-- The entries of a rule: its findings, and then their number. -/
def ruleEntries (report : Report) (c : RuleId × Nat) : List LogEntry :=
  (report.findingsOf c.1).map .ofDiagnostic ++ [.ofCount c.1 c.2]

/-- The entries of a report. -/
def logEntries (report : Report) : List LogEntry :=
  .opening :: report.counts.flatMap report.ruleEntries ++ report.failures.map .ofFailure ++
    [.closing]

/-- The block that closes a log. -/
def logSummary (report : Report) : String := "\n\n" ++ report.summary

end Report

/-- The directory for the log of a source: that of the settings, or one beside the source. -/
def General.logDir (g : General) (source : Path) : Path :=
  match g.logsDir, source.parent? with
  | some dir, _ => dir
  | none, some above => above.join logDirName
  | none, none => ⟨logDirName⟩

/-- A log on a disk. -/
structure Log where
  /-- Its path, as it is shown. -/
  path : Path
  /-- Where it is. -/
  location : List String

namespace Log

/-- The name of the log of a source with this stem, after so many names that were taken. -/
def fileName (stem : String) (now : Moment) (taken : Nat) : String :=
  "Logs-" ++ stem ++ "-at-" ++ now.nameText ++
    (if taken = 0 then "" else "-" ++ toString taken) ++ ".log"

end Log

namespace Disk

/-- The number of entries beside what a path leads to. -/
def neighbours (d : Disk) (p : Path) : Nat :=
  match d.resolve p with
  | .ok (location, _) =>
    match d.root.get? location.dropLast with
    | some (.dir _ entries) => entries.length
    | _ => 0
  | .error _ => 0

/-- Creates a log at a path; if the path is taken, `other` tells how to go on. -/
def createLogAt (d : Disk) (path : Path) (other : Unit → Except Failure (Log × Disk)) :
    Except Failure (Log × Disk) :=
  match d.createFile path with
  | .ok (location, d) => .ok (⟨path, location⟩, d)
  | .error .present => other ()
  | .error e => .error (e.during "create log file" path)

/-- Creates a log under the first name that is free, at most `tries` of them. -/
def createLogFrom (d : Disk) (dir : Path) (stem : String) (now : Moment) (taken : Nat) :
    (tries : Nat) → Except Failure (Log × Disk)
  | 0 =>
    .error (DiskError.present.during "create log file" (dir.join (Log.fileName stem now taken)))
  | tries + 1 =>
    d.createLogAt (dir.join (Log.fileName stem now taken)) fun _ =>
      d.createLogFrom dir stem now (taken + 1) tries

/-- Creates a log in a directory.  All names belong to one directory, so that one more name than
it has entries is enough to find a free one. -/
def createLogIn (d : Disk) (dir : Path) (stem : String) (now : Moment) :
    Except Failure (Log × Disk) :=
  d.createLogFrom dir stem now 0 (d.neighbours (dir.join (Log.fileName stem now 0)) + 1)

/-- Creates a directory for logs, and lets everyone write into it if `shared` says so. -/
def createLogDir (d : Disk) (dir : Path) (shared : Bool) : Except Failure Unit × Disk :=
  match d.createDirs dir with
  | (.error e, d) => (.error (e.during "create log directory" dir), d)
  | (.ok (), d) =>
    if shared then
      match d.share dir with
      | .error e => (.error (e.during "set log directory permissions" dir), d)
      | .ok d => (.ok (), d)
    else (.ok (), d)

/-- Creates the directory for the log of a source, and the log in it.  The directory stays if the
log cannot be created. -/
def createLog (d : Disk) (g : General) (source : Path) (now : Moment) :
    Except Failure Log × Disk :=
  match d.createLogDir (g.logDir source) g.sharedLogs with
  | (.error e, d) => (.error e, d)
  | (.ok (), d) =>
    match d.createLogIn (g.logDir source) ((source.stem?.map String.ofList).getD "source") now with
    | .error e => (.error e, d)
    | .ok (log, d) => (.ok log, d)

/-- Appends a text to a log. -/
def appendText (d : Disk) (log : Log) (s : String) : Disk :=
  d.append log.location (Utf8.encode s.toList)

/-- Appends an entry to a log. -/
def appendEntry (d : Disk) (log : Log) (now : Moment) (e : LogEntry) : Disk :=
  d.appendText log (e.render now)

/-- Appends entries one after the other. -/
def appendEntries (d : Disk) (log : Log) (clock : Clock) : List LogEntry → Disk
  | [] => d
  | e :: rest => (d.appendEntry log (clock 0) e).appendEntries log (clock.later 1) rest

/-- Appends the entries of a report. -/
def appendReport (d : Disk) (log : Log) (clock : Clock) (report : Report) : Disk :=
  d.appendEntries log clock report.logEntries

/-- Appends the summary of a report. -/
def appendSummary (d : Disk) (log : Log) (report : Report) : Disk :=
  d.appendText log report.logSummary

end Disk

end StyleAudit
