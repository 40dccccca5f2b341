import StyleAudit.Path
import StyleAudit.Text.Blank

/-!
# Failures

The ways in which an audit, or a part of it, can fail.  A missing source stops a run, a failing
rule or tool only loses its own result, and a failing delivery leaves the log on disk.  Each
failure has one message and some suggestions for the user.  A count that overflows is no failure:
nothing catches it, and it ends the whole program.
-/

namespace StyleAudit

/-- A cause of failure. -/
inductive Failure where
  /-- A file is missing. -/
  | notFound (path : Path)
  /-- An operation on files failed, perhaps at a known path and for a known cause. -/
  | io (operation : String) (path : Option Path) (cause : Option String)
  /-- A configuration is unusable. -/
  | settings (message : String) (path : Option Path) (cause : Option String)
  /-- A rule could not be evaluated. -/
  | rule (name message : String)
  /-- An external tool could not be run or failed. -/
  | tool (command message : String)
  /-- A mail was not delivered. -/
  | delivery (message : String) (cause : Option String)
  /-- An argument is unusable. -/
  | input (message : String) (argument : Option String)

namespace Failure

/-- A failed operation at a path.  If the cause is that the path does not exist, the failure is
that of a missing file. -/
def atPath (operation : String) (path : Path) (isMissing : Bool) (cause : String) : Failure :=
  if isMissing then .notFound path else .io operation (some path) (some cause)

/-- A text behind a colon, if there is one. -/
def because : Option String → String
  | some cause => ": " ++ cause
  | none => ""

/-- The message of a failure. -/
def message : Failure → String
  | .notFound path => "File not found: " ++ path.text
  | .io operation (some path) cause =>
    "IO error during '" ++ operation ++ "' at '" ++ path.text ++ "'" ++ because cause
  | .io operation none cause => "IO error during '" ++ operation ++ "'" ++ because cause
  | .settings message (some path) _ =>
    "Configuration error in '" ++ path.text ++ "': " ++ message
  | .settings message none _ => "Configuration error: " ++ message
  | .rule name message => "Error during " ++ name ++ " check: " ++ message
  | .tool command message => "Subprocess '" ++ command ++ "' failed: " ++ message
  | .delivery message cause =>
    "Error occurred while sending email: " ++ message ++ because cause
  | .input message (some argument) => "Invalid input '" ++ argument ++ "': " ++ message
  | .input message none => "Invalid input: " ++ message

/-- The failure that lies behind this one, if it was kept. -/
def cause? : Failure → Option String
  | .io _ _ cause => cause
  | .settings _ _ cause => cause
  | .delivery _ cause => cause
  | _ => none

/-- What the user may try. -/
def suggestions : Failure → List String
  | .notFound _ =>
    ["Check the path to the source file",
      "Use an absolute path if the working directory is unclear"]
  | .io operation _ _ =>
    ["Check that the path exists and is accessible",
      "Verify you have the necessary permissions"] ++
      (if Text.occursIn "log".toList operation.toList then
        ["Ensure the Logs directory is writable"] else [])
  | .settings _ _ _ =>
    ["Check the configuration file syntax",
      "Ensure the file is valid TOML format",
      "Remove keys that are not documented configuration options"]
  | .rule name _ =>
    ["The '" ++ name ++ "' rule was skipped; other rules still ran",
      "Check that the source file is well-formed"]
  | .tool command _ =>
    ["Ensure '" ++ command ++ "' is installed and in your PATH",
      "Disable preprocessing with `naming.preprocess = false`"]
  | .delivery _ _ =>
    ["Check the SMTP server, port and sender credentials",
      "The log file is still on disk and can be sent manually"]
  | .input _ _ =>
    ["Review the command-line arguments",
      "Verify all required arguments are provided"]

end Failure

/-- Why a part of an audit has no result. -/
inductive Fault where
  /-- It failed, which is recorded or ends the audit. -/
  | failure (e : Failure)
  /-- A count went beyond the greatest one, which ends the program. -/
  | overflow

end StyleAudit
