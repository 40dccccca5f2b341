import StyleAudit.Log
import StyleAudit.Report.Markup

/-!
# Envelopes

The mail that carries a log: its addresses, its subject with the day, the summary as a page, and
the log as an attachment.
-/

namespace StyleAudit

/-- A mail. -/
structure Envelope where
  /-- The address of the sender. -/
  sender : String
  /-- The address of the recipient. -/
  recipient : String
  /-- The subject. -/
  subject : String
  /-- The body, a page. -/
  body : String
  /-- The name of the attachment. -/
  attachmentName : String
  /-- The attachment. -/
  attachment : List UInt8

/-- What becomes of a mail. -/
abbrev Transport := Envelope → Except Failure Unit

namespace Envelope

/-- The subject of a mail. -/
def subjectAt (now : Moment) : String := "Script Analysis Log - " ++ now.dayText

/-- An address that the settings must hold. -/
def address (what : String) : Option String → Except Failure String
  | some a => .ok a
  | none => .error (.input ("no " ++ what ++ " address configured") (some ("mail." ++ what)))

/-- Puts the log of a report into an envelope. -/
def build (d : Disk) (report : Report) (log : Path) (m : MailSettings) (now : Moment) :
    Except Failure Envelope := do
  let sender ← address "sender" m.sender
  let recipient ← address "recipient" m.recipient
  let attachment ← (d.read log).mapError (·.during "read log file" log)
  return {
    sender, recipient, attachment
    subject := subjectAt now
    body := report.mailBody
    attachmentName := (log.fileName?.map String.ofList).getD "analysis.log" }

end Envelope

end StyleAudit
