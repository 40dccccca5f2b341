import StyleAudit.Report.Basic

/-!
# Reports as JSON

Values are written over several lines with two spaces for each level; empty lists and objects
stay on one line.  Inside strings only quotes, backslashes and controls are escaped.
-/

namespace StyleAudit

/-- A value of JSON, with the members of an object in order. -/
inductive JsonValue where
  /-- A truth value. -/
  | bool (b : Bool)
  /-- A natural number. -/
  | nat (n : Nat)
  /-- A string. -/
  | str (s : String)
  /-- A list. -/
  | list (items : List JsonValue)
  /-- An object. -/
  | object (members : List (String × JsonValue))

namespace JsonValue

/-- A digit of a hexadecimal number, in small letters. -/
def hexDigit (n : Nat) : Char := Nat.digitChar n

/-- One character inside a string. -/
def escapeChar (c : Char) : List Char :=
  if c == '"' then ['\\', '"']
  else if c == '\\' then ['\\', '\\']
  else if c == '\n' then ['\\', 'n']
  else if c == '\r' then ['\\', 'r']
  else if c == '\t' then ['\\', 't']
  else if c.toNat == 0x08 then ['\\', 'b']
  else if c.toNat == 0x0C then ['\\', 'f']
  else if c.toNat < 0x20 then
    ['\\', 'u', '0', '0', hexDigit (c.toNat / 16), hexDigit (c.toNat % 16)]
  else [c]

/-- A string between quotes. -/
def quote (s : String) : List Char := '"' :: s.toList.flatMap escapeChar ++ ['"']

/-- A line feed and the spaces of a level. -/
def newline (level : Nat) : List Char := '\n' :: List.replicate (2 * level) ' '

mutual

/-- A value at a level. -/
def write (level : Nat) : JsonValue → List Char
  | .bool b => (if b then "true" else "false").toList
  | .nat n => (toString n).toList
  | .str s => quote s
  | .list [] => ['[', ']']
  | .list (item :: items) =>
    '[' :: newline (level + 1) ++ write (level + 1) item ++ writeItems (level + 1) items ++
      newline level ++ [']']
  | .object [] => ['\x7b', '\x7d']
  | .object ((key, value) :: members) =>
    '\x7b' :: newline (level + 1) ++ quote key ++ [':', ' '] ++ write (level + 1) value ++
      writeMembers (level + 1) members ++ newline level ++ ['\x7d']

/-- The items of a list behind the first. -/
def writeItems (level : Nat) : List JsonValue → List Char
  | [] => []
  | item :: items => ',' :: newline level ++ write level item ++ writeItems level items

/-- The members of an object behind the first. -/
def writeMembers (level : Nat) : List (String × JsonValue) → List Char
  | [] => []
  | (key, value) :: members =>
    ',' :: newline level ++ quote key ++ [':', ' '] ++ write level value ++
      writeMembers level members

end

/-- The text of a value. -/
def render (v : JsonValue) : String := String.ofList (v.write 0)

end JsonValue

/-- A finding as a value. -/
def Diagnostic.toJson (d : Diagnostic) : JsonValue :=
  .object [("line", .nat d.line), ("severity", .str d.severity.name), ("rule", .str d.rule.name),
    ("message", .str d.message)]

/-- A failure as a value. -/
def RuleFailure.toJson (f : RuleFailure) : JsonValue :=
  .object [("rule", .str f.rule.name), ("message", .str f.message)]

namespace Report

/-- A report as a value. -/
def toJson (report : Report) : JsonValue :=
  .object [("path", .str report.path.text),
    ("per_rule_counts", .object (report.counts.map fun c => (c.1.name, .nat c.2))),
    ("diagnostics", .list (report.diagnostics.map Diagnostic.toJson)),
    ("overall_issue_flag", .bool report.hasIssues),
    ("failures", .list (report.failures.map RuleFailure.toJson))]

/-- Reports as JSON. -/
def json (reports : List Report) : String := (JsonValue.list (reports.map toJson)).render

end Report

end StyleAudit
