import StyleAudit.Command.Format
import StyleAudit.Count
import StyleAudit.Settings.Basic
import StyleAudit.Text.Numeral

/-!
# Arguments of the command line

The words of a command line are read from left to right.  A path, or the value of an option that
stands in a word of its own, is examined only when the next known option is met or the words end;
so a word that is unknown is reported in preference to a bad value before it.
-/

namespace StyleAudit

/-- Why a command line is not carried out. -/
inductive UsageError where
  /-- Help was asked for. -/
  | helpRequested
  /-- The version was asked for. -/
  | versionRequested
  /-- There is no command. -/
  | noCommand
  /-- There are no paths. -/
  | noPaths
  /-- An argument is unknown. -/
  | unknownArgument
  /-- A command is unknown. -/
  | unknownCommand
  /-- A value is missing, empty or none of those allowed. -/
  | invalidValue
  /-- A value is no number. -/
  | invalidNumber
  /-- An option is given twice. -/
  | repeated
  /-- A flag is given a value. -/
  | unexpectedValue
  deriving DecidableEq

/-- The arguments of a check. -/
structure CheckArgs where
  /-- Sources, and directories to search for them. -/
  paths : List Path := []
  /-- The configuration file. -/
  config : Option Path := none
  /-- The format of the output. -/
  output : Option Format := none
  /-- The recipient of mail. -/
  recipient : Option String := none
  /-- Send no mail. -/
  noMail : Bool := false
  /-- The greatest number of lines. -/
  maxLines : Option Nat := none
  /-- Run the preprocessor. -/
  preprocess : Bool := false
  /-- Search for leaks. -/
  leakCheck : Bool := false
  /-- Fail if there are findings. -/
  failOnIssues : Bool := false

/-- A command. -/
inductive Command where
  /-- Audit sources. -/
  | check (args : CheckArgs)
  /-- List the rules. -/
  | rules

/-! ### Words -/

/-- A word of a command line, by its form. -/
inductive Word where
  /-- `--`, behind which every word is plain. -/
  | escape
  /-- Two dashes and a name, with what follows the first equals sign. -/
  | long (name : String) (value : Option String)
  /-- One dash and a letter; what follows the letter does not matter. -/
  | short (letter : Char)
  /-- Anything else. -/
  | plain (text : String)

/-- The form of a word. -/
def Word.ofText (s : String) : Word :=
  match s.toList with
  | ['-', '-'] => .escape
  | '-' :: '-' :: t =>
    let name := t.takeWhile (· != '=')
    .long (String.ofList name)
      (match t.drop name.length with
        | _ :: value => some (String.ofList value)
        | [] => none)
  | '-' :: c :: _ => .short c
  | _ => .plain s

/-! ### Options of a check -/

/-- An option without value. -/
inductive Flag where
  /-- Send no mail. -/
  | noMail
  /-- Run the preprocessor. -/
  | preprocess
  /-- Search for leaks. -/
  | leakCheck
  /-- Fail if there are findings. -/
  | failOnIssues

/-- An option with a value. -/
inductive Parameter where
  /-- The configuration file. -/
  | config
  /-- The format of the output. -/
  | output
  /-- The recipient of mail. -/
  | recipient
  /-- The greatest number of lines. -/
  | maxLines

/-- The flag with a name. -/
def Flag.ofName? : String → Option Flag
  | "no-mail" => some .noMail
  | "preprocess" => some .preprocess
  | "leak-check" => some .leakCheck
  | "fail-on-issues" => some .failOnIssues
  | _ => none

/-- The option with a name. -/
def Parameter.ofName? : String → Option Parameter
  | "config" => some .config
  | "output" => some .output
  | "recipient" => some .recipient
  | "max-lines" => some .maxLines
  | _ => none

/-- A count in decimal digits, with a plus sign in front if one likes. -/
def readCount? (t : List Char) : Option Nat :=
  let digits := match t with
    | '+' :: rest => rest
    | rest => rest
  (Text.natOfDigits? 10 digits).filter (· < countBound)

namespace CheckArgs

/-- Sets a flag, which must not be set yet. -/
def setFlag (a : CheckArgs) : Flag → Except UsageError CheckArgs
  | .noMail => if a.noMail then .error .repeated else .ok { a with noMail := true }
  | .preprocess => if a.preprocess then .error .repeated else .ok { a with preprocess := true }
  | .leakCheck => if a.leakCheck then .error .repeated else .ok { a with leakCheck := true }
  | .failOnIssues =>
    if a.failOnIssues then .error .repeated else .ok { a with failOnIssues := true }

/-- Sets an option, which must not be set yet. -/
def setParameter (a : CheckArgs) (p : Parameter) (v : String) : Except UsageError CheckArgs :=
  match p with
  | .config =>
    if a.config.isSome then .error .repeated
    else if v == "" then .error .invalidValue
    else .ok { a with config := some ⟨v⟩ }
  | .output =>
    if a.output.isSome then .error .repeated
    else match Format.ofName? v with
      | some f => .ok { a with output := some f }
      | none => .error .invalidValue
  | .recipient =>
    if a.recipient.isSome then .error .repeated else .ok { a with recipient := some v }
  | .maxLines =>
    if a.maxLines.isSome then .error .repeated
    else match readCount? v.toList with
      | some n => .ok { a with maxLines := some n }
      | none => .error .invalidNumber

/-- Adds paths, none of which may be empty. -/
def addPaths (a : CheckArgs) (ps : List String) : Except UsageError CheckArgs :=
  if ps.contains "" then .error .invalidValue
  else .ok { a with paths := a.paths ++ ps.map Path.mk }

/-- The settings of a file, overridden by the arguments that were given. -/
def override (a : CheckArgs) (s : Settings) : Settings :=
  { general := { s.general with output := (a.output.map Format.name).or s.general.output }
    thresholds := { s.thresholds with maxLines := a.maxLines.getD s.thresholds.maxLines }
    naming := { s.naming with preprocess := a.preprocess || s.naming.preprocess }
    mail := { s.mail with
      recipient := a.recipient.or s.mail.recipient
      enabled := !a.noMail && s.mail.enabled }
    leakCheck := { s.leakCheck with enabled := a.leakCheck || s.leakCheck.enabled } }

end CheckArgs

/-! ### Reading a check -/

/-- What was read but not examined yet. -/
inductive Pending where
  /-- Nothing. -/
  | nothing
  /-- Paths in a row. -/
  | paths (ps : List String)
  /-- An option, and its value once it is read. -/
  | parameter (p : Parameter) (value : Option String)

/-- The state between two words of a check. -/
structure Scan where
  /-- The arguments examined so far. -/
  args : CheckArgs := {}
  /-- What is not examined yet. -/
  pending : Pending := .nothing

namespace Scan

/-- Examines what is pending. -/
def settle (s : Scan) : Except UsageError CheckArgs :=
  match s.pending with
  | .nothing => .ok s.args
  | .paths ps => s.args.addPaths ps
  | .parameter _ none => .error .invalidValue
  | .parameter p (some v) => s.args.setParameter p v

/-- Adds a path. -/
def path (s : Scan) (p : String) : Except UsageError Scan :=
  match s.pending with
  | .paths ps => .ok { s with pending := .paths (ps ++ [p]) }
  | _ => s.settle.map fun a => ⟨a, .paths [p]⟩

/-- Reads a plain word: the value of the option before it, or a path. -/
def plain (s : Scan) (t : String) : Except UsageError Scan :=
  match s.pending with
  | .parameter p none => .ok { s with pending := .parameter p (some t) }
  | _ => s.path t

/-- Asks for help. -/
def help (s : Scan) : Except UsageError Scan := s.settle.bind fun _ => .error .helpRequested

/-- Reads a flag. -/
def flag (s : Scan) (f : Flag) : Except UsageError Scan :=
  (s.settle.bind (·.setFlag f)).map fun a => ⟨a, .nothing⟩

/-- Reads an option; its value is in the same word or in the next one. -/
def parameter (s : Scan) (p : Parameter) (value : Option String) : Except UsageError Scan :=
  match value with
  | some v => (s.settle.bind (·.setParameter p v)).map fun a => ⟨a, .nothing⟩
  | none => s.settle.map fun a => ⟨a, .parameter p none⟩

/-- Reads a word with two dashes. -/
def long (s : Scan) (name : String) (value : Option String) : Except UsageError Scan :=
  match Parameter.ofName? name with
  | some p => s.parameter p value
  | none =>
    match Flag.ofName? name, value with
    | some _, some _ => .error .unexpectedValue
    | some f, none => s.flag f
    | none, value =>
      if name != "help" then .error .unknownArgument
      else if value.isSome then .error .unexpectedValue
      else s.help

/-- Reads the words of a check. -/
def words (s : Scan) : List String → Except UsageError Scan
  | [] => .ok s
  | arg :: rest =>
    match Word.ofText arg with
    | .escape => rest.foldlM path s
    | .long name value => (s.long name value).bind (·.words rest)
    | .short 'h' => s.help
    | .short _ => .error .unknownArgument
    | .plain t => (s.plain t).bind (·.words rest)

end Scan

/-- Reads the arguments of a check. -/
def CheckArgs.parse (args : List String) : Except UsageError CheckArgs := do
  let s ← Scan.words {} args
  let a ← s.settle
  if a.paths.isEmpty then .error .noPaths else .ok a

/-! ### Reading a command -/

namespace Command

/-- The names of commands. -/
def names : List String := ["check", "rules", "help"]

/-- Reads the words behind `rules`, which takes none. -/
def parseRules : List String → Except UsageError Command
  | [] => .ok .rules
  | arg :: rest =>
    match Word.ofText arg with
    | .escape => if rest.isEmpty then .ok .rules else .error .unknownArgument
    | .long "help" none => .error .helpRequested
    | .long "help" (some _) => .error .unexpectedValue
    | .short 'h' => .error .helpRequested
    | _ => .error .unknownArgument

/-- Reads the words behind `help`: at most the name of a command. -/
def parseHelp : List String → UsageError
  | [] => .helpRequested
  | [name] => if names.contains name then .helpRequested else .unknownCommand
  | _ => .unknownCommand

/-- Reads a command line. -/
def parse : List String → Except UsageError Command
  | [] => .error .noCommand
  | arg :: rest =>
    match Word.ofText arg with
    | .escape =>
      match rest with
      | [] => .error .noCommand
      | name :: _ =>
        .error (if names.contains name then .unknownArgument else .unknownCommand)
    | .long "help" none => .error .helpRequested
    | .long "version" none => .error .versionRequested
    | .long name value =>
      .error (if value.isSome && (name == "help" || name == "version") then .unexpectedValue
        else .unknownArgument)
    | .short 'h' => .error .helpRequested
    | .short 'V' => .error .versionRequested
    | .short _ => .error .unknownArgument
    | .plain "check" => (CheckArgs.parse rest).map .check
    | .plain "rules" => parseRules rest
    | .plain "help" => .error (parseHelp rest)
    | .plain _ => .error .unknownCommand

end Command

end StyleAudit
