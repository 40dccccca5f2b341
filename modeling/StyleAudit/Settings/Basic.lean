import StyleAudit.Failure

/-!
# Settings

The settings of an audit, section by section, with their defaults.  `Thresholds.validate` tells
which thresholds a configuration file may hold.
-/

namespace StyleAudit

/-- General settings. -/
structure General where
  /-- The format of the report on the terminal. -/
  output : Option String := none
  /-- The directory for logs; without it, logs stand beside each source. -/
  logsDir : Option Path := none
  /-- Whether everyone may write into the directory for logs. -/
  sharedLogs : Bool := false

/-- Thresholds of the rules. -/
structure Thresholds where
  /-- The greatest number of lines. -/
  maxLines : Nat := 1500
  /-- Spaces for each level of nesting. -/
  indentWidth : Nat := 4
  /-- The length of the blocks that are searched for repetitions. -/
  sequenceLength : Nat := 3
  /-- The number of occurrences from which on a block is reported. -/
  repetitionThreshold : Nat := 4
  /-- The least number of functions. -/
  minFunctions : Nat := 1
  /-- The greatest number of functions. -/
  maxFunctions : Nat := 50
  deriving DecidableEq

/-- Settings of the search for declarations. -/
structure Naming where
  /-- Whether to run the preprocessor first. -/
  preprocess : Bool := false
  /-- The preprocessor. -/
  preprocessor : String := "cpp"
  /-- Its arguments before the path of the source. -/
  preprocessorArgs : List String := []

/-- Settings of mail delivery. -/
structure MailSettings where
  /-- Whether to send mail at all. -/
  enabled : Bool := true
  /-- The server. -/
  server : String := "smtp-mail.outlook.com"
  /-- The port of the server. -/
  port : Nat := 587
  /-- The address of the sender, which is also the user name. -/
  sender : Option String := none
  /-- The address of the recipient. -/
  recipient : Option String := none
  /-- The environment variable that holds the password. -/
  passwordVariable : String := "SCRIPTLINT_SMTP_PASSWORD"

/-- Settings of the search for leaks. -/
structure LeakSettings where
  /-- Whether to search for leaks. -/
  enabled : Bool := false
  /-- The compiler of C sources. -/
  cCompiler : String := "gcc"
  /-- The compiler of C++ sources. -/
  cppCompiler : String := "g++"
  /-- The checker, which runs the compiled program. -/
  checker : String := "valgrind"
  /-- Arguments of the checker before the program. -/
  checkerArgs : List String := ["--leak-check=full"]
  /-- What the checker prints when nothing leaks. -/
  cleanMarker : String := "no leaks are possible"

/-- All settings. -/
structure Settings where
  /-- General settings. -/
  general : General := {}
  /-- Thresholds of the rules. -/
  thresholds : Thresholds := {}
  /-- Settings of the search for declarations. -/
  naming : Naming := {}
  /-- Settings of mail delivery. -/
  mail : MailSettings := {}
  /-- Settings of the search for leaks. -/
  leakCheck : LeakSettings := {}

/-- Mail can be sent: it is enabled and both addresses are known. -/
def MailSettings.isConfigured (m : MailSettings) : Bool :=
  m.enabled && m.sender.isSome && m.recipient.isSome

/-- Why thresholds are unusable. -/
inductive ThresholdProblem where
  /-- Blocks of no line. -/
  | emptySequence
  /-- A block would be reported without a repetition. -/
  | noRepetition
  /-- The least number of functions exceeds the greatest. -/
  | crossedBounds (least greatest : Nat)

/-- The message of a problem. -/
def ThresholdProblem.message : ThresholdProblem → String
  | .emptySequence => "thresholds.sequence_length must be at least 1"
  | .noRepetition => "thresholds.repetition_threshold must be at least 2"
  | .crossedBounds least greatest =>
    "thresholds.min_functions (" ++ toString least ++ ") exceeds thresholds.max_functions (" ++
      toString greatest ++ ")"

/-- The first problem of some thresholds. -/
def Thresholds.problem? (t : Thresholds) : Option ThresholdProblem :=
  if t.sequenceLength = 0 then some .emptySequence
  else if t.repetitionThreshold < 2 then some .noRepetition
  else if t.maxFunctions < t.minFunctions then
    some (.crossedBounds t.minFunctions t.maxFunctions)
  else none

/-- Accepts thresholds without problem. -/
def Thresholds.validate (t : Thresholds) : Except Failure Unit :=
  match t.problem? with
  | some p => .error (.settings p.message none none)
  | none => .ok ()

end StyleAudit
