import StyleAudit.Count
import StyleAudit.Settings.Basic
import StyleAudit.Toml.Document
import StyleAudit.Toml.Schema

/-!
# Settings in a configuration file

The sections of a configuration file, as schemas over their defaults.  Fields that are not given
keep their default; fields that do not exist are refused.
-/

namespace StyleAudit

namespace Settings

/-- The greatest port. -/
def maxPort : Nat := 0xFFFF

/-- A field that holds a text. -/
def textField (key : String) (set : String → σ → σ) : Toml.Field σ where
  key := key
  read := fun v s => (v.asText "a string").map (set · s)

/-- A text that is absent by default, and must be given in a section written as a list. -/
def optionalText (key : String) (set : String → σ → σ) : Toml.Field σ :=
  { textField key set with needed := true }

/-- A field that holds a truth value. -/
def boolField (key : String) (set : Bool → σ → σ) : Toml.Field σ where
  key := key
  read := fun v s => v.asBool.map (set · s)

/-- A field that holds a count. -/
def countField (key : String) (set : Nat → σ → σ) : Toml.Field σ where
  key := key
  read := fun v s => (v.asNat (countBound - 1) "usize").map (set · s)

/-- A field that holds a list of texts. -/
def textsField (key : String) (set : List String → σ → σ) : Toml.Field σ where
  key := key
  read := fun v s => v.asTexts.map (set · s)

/-- A field that holds a section. -/
def sectionField (key : String) (schema : Toml.Schema τ) (defaults : τ) (set : τ → σ → σ) :
    Toml.Field σ where
  key := key
  read := fun v s => (schema.read defaults v).map (set · s)

/-- General settings. -/
def generalSchema : Toml.Schema General where
  name := "GeneralConfig"
  fields := [
    optionalText "output" fun v s => { s with output := some v },
    { key := "logs_dir"
      needed := true
      read := fun v s => (v.asText "path string").map fun t => { s with logsDir := some ⟨t⟩ } },
    boolField "shared_log_permissions" fun v s => { s with sharedLogs := v }]

/-- Thresholds. -/
def thresholdsSchema : Toml.Schema Thresholds where
  name := "ThresholdConfig"
  fields := [
    countField "max_lines" fun v s => { s with maxLines := v },
    countField "indent_width" fun v s => { s with indentWidth := v },
    countField "sequence_length" fun v s => { s with sequenceLength := v },
    countField "repetition_threshold" fun v s => { s with repetitionThreshold := v },
    countField "min_functions" fun v s => { s with minFunctions := v },
    countField "max_functions" fun v s => { s with maxFunctions := v }]

/-- Settings of the search for declarations. -/
def namingSchema : Toml.Schema Naming where
  name := "NamingConfig"
  fields := [
    boolField "preprocess" fun v s => { s with preprocess := v },
    textField "preprocessor" fun v s => { s with preprocessor := v },
    textsField "preprocessor_args" fun v s => { s with preprocessorArgs := v }]

/-- Settings of mail delivery. -/
def mailSchema : Toml.Schema MailSettings where
  name := "MailConfig"
  fields := [
    boolField "enabled" fun v s => { s with enabled := v },
    textField "smtp_server" fun v s => { s with server := v },
    { key := "smtp_port"
      read := fun v s => (v.asNat maxPort "u16").map fun n => { s with port := n } },
    optionalText "sender" fun v s => { s with sender := some v },
    optionalText "recipient" fun v s => { s with recipient := some v },
    textField "password_env" fun v s => { s with passwordVariable := v }]

/-- Settings of the search for leaks. -/
def leakSchema : Toml.Schema LeakSettings where
  name := "LeakCheckConfig"
  fields := [
    boolField "enabled" fun v s => { s with enabled := v },
    textField "c_compiler" fun v s => { s with cCompiler := v },
    textField "cpp_compiler" fun v s => { s with cppCompiler := v },
    textField "checker" fun v s => { s with checker := v },
    textsField "checker_args" fun v s => { s with checkerArgs := v },
    textField "clean_marker" fun v s => { s with cleanMarker := v }]

/-- The whole file. -/
def schema : Toml.Schema Settings where
  name := "ScriptLintConfig"
  fields := [
    sectionField "general" generalSchema {} fun v s => { s with general := v },
    sectionField "thresholds" thresholdsSchema {} fun v s => { s with thresholds := v },
    sectionField "naming" namingSchema {} fun v s => { s with naming := v },
    sectionField "mail" mailSchema {} fun v s => { s with mail := v },
    sectionField "leak_check" leakSchema {} fun v s => { s with leakCheck := v }]

/-- Why a text is no configuration. -/
inductive Problem where
  /-- It is not well formed. -/
  | malformed
  /-- It is well formed, but a key or a value does not fit. -/
  | mismatch (m : Toml.Mismatch)

/-- The message of a problem.  Of the parser's own report, which stands behind the colon, only the
last line of a mismatch is kept.  The place in the text that it quotes before, and all that it says
about a text that is not well formed, are left out. -/
def Problem.message : Problem → String
  | .malformed => "Failed to parse TOML"
  | .mismatch m => "Failed to parse TOML: " ++ m.message

/-- Reads the text of a configuration file. -/
def parse (t : List Char) : Except Problem Settings :=
  match Toml.parse? t with
  | none => .error .malformed
  | some es => (schema.readEntries {} es).mapError .mismatch

end Settings

end StyleAudit
