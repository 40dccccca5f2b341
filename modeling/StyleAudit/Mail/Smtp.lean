import StyleAudit.Mail.Address
import StyleAudit.Mail.Envelope
import StyleAudit.Text.Quoted

/-!
# Delivery by a server

A mail goes to a server with a user name and a password.  The password is never part of the
settings: they name the environment variable that holds it.

This is one instance of `Transport`, which audits take as a parameter.  The readers of addresses
(`Mail.parseMailbox`) and of the domain names in them, in the modules below `Mail.Domain`, belong to
it: they stand for the library that it hands addresses to.
-/

namespace StyleAudit

/-- The values of environment variables. -/
abbrev Environment := String → Option String

/-- A server and the right to use it. -/
structure Smtp where
  /-- The server. -/
  server : String
  /-- Its port. -/
  port : Nat
  /-- The name of the user. -/
  username : String
  /-- The password. -/
  password : String

/-- What comes of handing a mail to a server: nothing, or the cause of a failure. -/
abbrev Network := Smtp → Envelope → Except String Unit

namespace Smtp

/-- The server of the settings.  The sender is the user. -/
def ofSettings (env : Environment) (m : MailSettings) : Except Failure Smtp :=
  match m.sender with
  | none => .error (.settings "mail.sender is required to send mail" none none)
  | some username =>
    match env m.passwordVariable with
    | none =>
      .error (.settings ("environment variable " ++ m.passwordVariable ++
        " with the SMTP password is not set") none none)
    | some password => .ok ⟨m.server, m.port, username, password⟩

/-- The server described for people, without its password. -/
def describe (s : Smtp) : String :=
  "SmtpMailer \x7b server: " ++ Text.quoted s.server ++ ", port: " ++ toString s.port ++
    ", username: " ++ Text.quoted s.username ++ ", password: \"<redacted>\" \x7d"

/-- Reads an address of a mail. -/
def readAddress (what address : String) : Except Failure Mail.Mailbox :=
  (Mail.parseMailbox address.toList).mapError fun e =>
    .delivery ("invalid " ++ what ++ " address") (some e.message)

/-- Checks that a mailbox can stand in the head of a mail. -/
def checkMailbox (what : String) (m : Mail.Mailbox) : Except Failure Unit :=
  if m.isReadable then .ok ()
  else
    .error (.delivery "failed to build message"
      (some ("missing " ++ what ++ " address, invalid envelope")))

/-- Delivers a mail.  Both addresses are read first, then the head of the mail is written. -/
def deliver (s : Smtp) (network : Network) : Transport := fun e => do
  let sender ← readAddress "sender" e.sender
  let recipient ← readAddress "recipient" e.recipient
  checkMailbox "source" sender
  checkMailbox "destination" recipient
  (network s e).mapError fun cause => .delivery "SMTP delivery failed" (some cause)

end Smtp

end StyleAudit
