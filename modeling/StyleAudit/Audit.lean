import StyleAudit.Battery
import StyleAudit.Mail.Envelope
import StyleAudit.Settings.Describe
import StyleAudit.Tool.Leak
import StyleAudit.Tool.Preprocessor

/-!
# Audits

An audit of a source loads it, runs the battery on it, writes the log, and mails it.  A source
that cannot be loaded, or a log that cannot be created, stops the audit.  A rule that fails is
recorded in the report, and a mail that is not delivered is recorded in the log, which stays on
the disk.  The log is written to the disk as the tools that the rules call have left it.
-/

namespace StyleAudit

/-- What became of the mail. -/
inductive Delivery where
  /-- It was sent. -/
  | sent
  /-- There was nothing to send it with, or nobody to send it to. -/
  | skipped
  /-- It was not delivered. -/
  | failed (message : String)

/-- The result of an audit. -/
structure Outcome where
  /-- The report. -/
  report : Report
  /-- The log. -/
  log : Path
  /-- What became of the mail. -/
  delivery : Delivery
  /-- The mail that was handed over, if there was one. -/
  mail : Option Envelope := none

/-- What audits are made with. -/
structure Auditor where
  /-- The settings. -/
  settings : Settings
  /-- The checks. -/
  battery : Battery
  /-- Where declarations come from. -/
  source : DeclarationSource
  /-- How mail is sent. -/
  transport : Option Transport := none

namespace Auditor

/-- The auditor that the settings ask for, without mail. -/
def ofSettings (s : Settings) (tools : Tools) (buildDir : Path) : Auditor where
  settings := s
  battery := .ofSettings s (s.leakCheck.check tools buildDir)
  source := s.naming.source tools

/-- The report on a document, and the disk that its checks leave. -/
def examine (a : Auditor) (d : Disk) (doc : Document) : Option Report × Disk :=
  let (report, session) := a.battery.run doc (.start doc.language a.settings.thresholds a.source d)
  (report, session.disk)

/-- Hands the log of a report over, if mail is configured. -/
def deliver (a : Auditor) (d : Disk) (now : Moment) (report : Report) (log : Log) :
    Delivery × Option Envelope :=
  match a.transport with
  | none => (.skipped, none)
  | some transport =>
    if !a.settings.mail.isConfigured then (.skipped, none)
    else match Envelope.build d report log.path a.settings.mail now with
      | .error e => (.failed e.message, none)
      | .ok envelope =>
        match transport envelope with
        | .ok () => (.sent, some envelope)
        | .error e => (.failed e.message, some envelope)

/-- Records in the log that the mail was not delivered. -/
def recordDelivery (d : Disk) (now : Moment) (log : Log) : Delivery → Disk
  | .failed message => d.appendEntry log now ⟨.error, message⟩
  | _ => d

/-- Writes the log of a report and mails it.  The clock is read for each entry, for the mail, and
for the entry on the delivery. -/
def finish (a : Auditor) (d : Disk) (clock : Clock) (report : Report) (log : Log) :
    Outcome × Disk :=
  let d := (d.appendReport log clock report).appendSummary log report
  let clock := clock.later report.logEntries.length
  let (delivery, mail) := a.deliver d (clock 0) report log
  (⟨report, log.path, delivery, mail⟩, recordDelivery d (clock 1) log delivery)

/-- Audits the source at a path.  The first reading of the clock names the log.  An audit that
fails leaves the directories behind that it made for the log. -/
def run (a : Auditor) (d : Disk) (clock : Clock) (path : Path) : Except Fault Outcome × Disk :=
  match d.load path with
  | .error e => (.error (.failure e), d)
  | .ok doc =>
    match a.examine d doc with
    | (none, d) => (.error .overflow, d)
    | (some report, d) =>
      match d.createLog a.settings.general path (clock 0) with
      | (.error e, d) => (.error (.failure e), d)
      | (.ok log, d) =>
        let (outcome, d) := a.finish d (clock.later 1) report log
        (.ok outcome, d)

/-- The auditor described for people. -/
def describe (a : Auditor) : String :=
  Settings.describeRecord "Analyzer"
    [("config", a.settings.describe), ("rules", toString a.battery.length),
      ("mailer", toString a.transport.isSome)]

end Auditor

end StyleAudit
