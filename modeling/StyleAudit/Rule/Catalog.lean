import StyleAudit.Source.Language

/-!
# The catalog of rules

The identity of each rule, what it is called, how severe its findings are and to which languages
it applies.  The order of the constructors is the order of the catalog, which reports follow.
-/

namespace StyleAudit

/-- How severe a finding is. -/
inductive Severity where
  /-- A matter of style. -/
  | warning
  /-- A violation of a requirement. -/
  | error
  deriving DecidableEq

/-- The name of a severity. -/
def Severity.name : Severity → String
  | .warning => "warning"
  | .error => "error"

/-- The name of a severity in a log. -/
def Severity.label : Severity → String
  | .warning => "WARNING"
  | .error => "ERROR"

/-- The position of a severity, the greater the more severe. -/
def Severity.rank : Severity → Nat
  | .warning => 0
  | .error => 1

/-- A rule of the catalog. -/
inductive RuleId where
  /-- The first line of code includes a header. -/
  | includeDirective
  /-- The number of lines is limited. -/
  | totalLines
  /-- No line holds a tab. -/
  | indentationTabs
  /-- Function bodies are indented by their depth. -/
  | indentationSpacing
  /-- Inclusions are well formed. -/
  | includeForm
  /-- Function names start small. -/
  | functionCase
  /-- Variable names start with a capital and are not all capitals. -/
  | variableCase
  /-- Pointer names start with `p_`. -/
  | pointerName
  /-- Symbols carry the name of their module. -/
  | moduleName
  /-- Type names start with a capital. -/
  | typeCase
  /-- No block of lines is repeated often. -/
  | repetition
  /-- The number of functions is within bounds. -/
  | functionCount
  /-- The source is UTF-8. -/
  | encoding
  /-- Indentation uses one character. -/
  | indentationChar
  /-- Lines end in one way. -/
  | lineEndings
  /-- The source ends with a closing brace. -/
  | closingBrace
  /-- Functions that occur on several lines are reviewed. -/
  | codeReuse
  /-- Words are separated by one space. -/
  | excessWhitespace
  /-- Lines do not end in a space or tab. -/
  | trailingWhitespace
  /-- The compiled program releases its memory. -/
  | memoryLeak
  deriving DecidableEq

namespace RuleId

/-- Every rule, in catalog order. -/
def all : List RuleId :=
  [.includeDirective, .totalLines, .indentationTabs, .indentationSpacing, .includeForm,
    .functionCase, .variableCase, .pointerName, .moduleName, .typeCase, .repetition,
    .functionCount, .encoding, .indentationChar, .lineEndings, .closingBrace, .codeReuse,
    .excessWhitespace, .trailingWhitespace, .memoryLeak]

/-- The rules that always run: all but the search for leaks. -/
def standard : List RuleId := all.filter (· != .memoryLeak)

/-- The position of a rule in the catalog. -/
def rank (r : RuleId) : Nat := all.idxOf r

/-- The name of a rule. -/
def name : RuleId → String
  | .includeDirective => "include_directive"
  | .totalLines => "total_lines"
  | .indentationTabs => "indentation_tabs"
  | .indentationSpacing => "indentation_spacing"
  | .includeForm => "include_syntax"
  | .functionCase => "naming_function_case"
  | .variableCase => "naming_variable_case"
  | .pointerName => "naming_pointer_prefix"
  | .moduleName => "naming_module_prefix"
  | .typeCase => "naming_type_case"
  | .repetition => "modularization_repetition"
  | .functionCount => "modularization_function_count"
  | .encoding => "file_encoding"
  | .indentationChar => "consistency_indentation_char"
  | .lineEndings => "consistency_line_endings"
  | .closingBrace => "consistency_closing_brace"
  | .codeReuse => "code_reuse"
  | .excessWhitespace => "excess_whitespace"
  | .trailingWhitespace => "trailing_whitespace"
  | .memoryLeak => "memory_leak"

/-- The title of a rule, for people. -/
def title : RuleId → String
  | .includeDirective => "Include Directive Presence"
  | .totalLines => "Line Count Verification"
  | .indentationTabs => "Tab Indentation Inspection"
  | .indentationSpacing => "Indentation Consistency Inspection"
  | .includeForm => "Include Syntax Check"
  | .functionCase => "Function Naming Assessment"
  | .variableCase => "Variable Naming Assessment"
  | .pointerName => "Pointer Naming Assessment"
  | .moduleName => "Module Prefix Assessment"
  | .typeCase => "Type Naming Assessment"
  | .repetition => "Repeated Code Evaluation"
  | .functionCount => "Module Structure Evaluation"
  | .encoding => "File Format Consistency Verification"
  | .indentationChar => "Indentation Character Uniformity"
  | .lineEndings => "Line Ending Uniformity"
  | .closingBrace => "Closing Brace Check"
  | .codeReuse => "Code Reuse Analysis"
  | .excessWhitespace => "Whitespace Reduction Analysis"
  | .trailingWhitespace => "Trailing Whitespace Analysis"
  | .memoryLeak => "Memory Leak Detection"

/-- What a rule asks for. -/
def description : RuleId → String
  | .includeDirective =>
    "The first non-blank, non-comment line must be an '#include ' directive"
  | .totalLines => "File length stays within the configured maximum"
  | .indentationTabs => "Lines are indented with spaces, never tabs"
  | .indentationSpacing =>
    "Function bodies are indented by a fixed number of spaces per nesting level"
  | .includeForm => "Include directives use <name.h> or \"name.h\""
  | .functionCase => "Function names start with a lowercase letter"
  | .variableCase => "Variables start with an uppercase letter and are not all uppercase"
  | .pointerName => "Pointer variables start with 'p_'"
  | .moduleName => "Symbols declared after a MODULE_ declaration share its prefix"
  | .typeCase => "Type names start with an uppercase letter"
  | .repetition => "Blocks of lines repeated often enough should become a function"
  | .functionCount => "Files define a reasonable number of functions"
  | .encoding => "The file is valid UTF-8"
  | .indentationChar => "Indentation uses one character throughout the file"
  | .lineEndings => "Line endings are either all CRLF or all LF"
  | .closingBrace => "The file ends with a closing brace"
  | .codeReuse => "Functions referenced from several places are candidates for reuse review"
  | .excessWhitespace => "Words inside a line are separated by single spaces"
  | .trailingWhitespace => "Lines do not end with whitespace"
  | .memoryLeak =>
    "Compiled program releases all heap memory (opt-in, needs a compiler and valgrind)"

/-- The severity of a rule's findings. -/
def severity : RuleId → Severity
  | .includeDirective => .error
  | .encoding => .error
  | _ => .warning

/-- The languages a rule applies to. -/
def appliesTo (r : RuleId) (l : Language) : Bool :=
  match r with
  | .totalLines | .indentationTabs | .indentationSpacing | .repetition | .functionCount
  | .encoding | .indentationChar | .lineEndings | .excessWhitespace | .trailingWhitespace => true
  | .memoryLeak => l == .c || l == .cpp
  | _ => l.isCFamily

end RuleId

/-- A finding of a rule. -/
structure Diagnostic where
  /-- The line it is about. -/
  line : Nat
  /-- How severe it is. -/
  severity : Severity
  /-- The rule. -/
  rule : RuleId
  /-- What was found. -/
  message : String
  deriving DecidableEq

namespace Diagnostic

/-- A finding with the severity of its rule. -/
def of (rule : RuleId) (line : Nat) (message : String) : Diagnostic :=
  ⟨line, rule.severity, rule, message⟩

/-- A finding as it stands in a log. -/
def render (d : Diagnostic) : String :=
  "line " ++ toString d.line ++ ": [" ++ d.rule.name ++ "] " ++ d.message

end Diagnostic

end StyleAudit
