import StyleAudit.Settings.Basic
import StyleAudit.Text.Quoted

/-!
# Descriptions of settings

The settings on one line, with every section and every field in order.
-/

namespace StyleAudit

namespace Settings

/-- A record: its name, and its fields with their values. -/
def describeRecord (name : String) (fields : List (String × String)) : String :=
  name ++ " \x7b " ++ String.intercalate ", " (fields.map fun f => f.1 ++ ": " ++ f.2) ++ " \x7d"

/-- A text that may be absent. -/
def describeOptional : Option String → String
  | some s => "Some(" ++ Text.quoted s ++ ")"
  | none => "None"

/-- A list of texts. -/
def describeList (l : List String) : String :=
  "[" ++ String.intercalate ", " (l.map Text.quoted) ++ "]"

/-- All sections. -/
def describe (s : Settings) : String :=
  describeRecord "ScriptLintConfig"
    [("general", describeRecord "GeneralConfig"
        [("output", describeOptional s.general.output),
          ("logs_dir", describeOptional (s.general.logsDir.map Path.text)),
          ("shared_log_permissions", toString s.general.sharedLogs)]),
      ("thresholds", describeRecord "ThresholdConfig"
        [("max_lines", toString s.thresholds.maxLines),
          ("indent_width", toString s.thresholds.indentWidth),
          ("sequence_length", toString s.thresholds.sequenceLength),
          ("repetition_threshold", toString s.thresholds.repetitionThreshold),
          ("min_functions", toString s.thresholds.minFunctions),
          ("max_functions", toString s.thresholds.maxFunctions)]),
      ("naming", describeRecord "NamingConfig"
        [("preprocess", toString s.naming.preprocess),
          ("preprocessor", Text.quoted s.naming.preprocessor),
          ("preprocessor_args", describeList s.naming.preprocessorArgs)]),
      ("mail", describeRecord "MailConfig"
        [("enabled", toString s.mail.enabled), ("smtp_server", Text.quoted s.mail.server),
          ("smtp_port", toString s.mail.port), ("sender", describeOptional s.mail.sender),
          ("recipient", describeOptional s.mail.recipient),
          ("password_env", Text.quoted s.mail.passwordVariable)]),
      ("leak_check", describeRecord "LeakCheckConfig"
        [("enabled", toString s.leakCheck.enabled),
          ("c_compiler", Text.quoted s.leakCheck.cCompiler),
          ("cpp_compiler", Text.quoted s.leakCheck.cppCompiler),
          ("checker", Text.quoted s.leakCheck.checker),
          ("checker_args", describeList s.leakCheck.checkerArgs),
          ("clean_marker", Text.quoted s.leakCheck.cleanMarker)])]

end Settings

end StyleAudit
