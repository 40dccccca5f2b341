import StyleAudit.Rule.Session

/-!
# Inclusions

The first line of code must include a header, and every inclusion must name a header in angle
brackets or quotes.
-/

namespace StyleAudit.Rule

/-- Reports a non-empty document whose first line of code is no inclusion.  Without code the
report is on the first line. -/
def includeDirective (d : Document) : List Diagnostic :=
  let report (line : Nat) : List Diagnostic :=
    [.of .includeDirective line
      "Mandatory '#include ' directive missing at the beginning of the file."]
  if d.isEmpty then []
  else match d.lines.find? fun l => !l.isBlankOrComment with
    | some l => if "#include ".toList.isPrefixOf l.trimmed then [] else report l.number
    | none => report 1

/-- What stands between the opening and the closing mark of a header: a text without blanks that
ends in `.h` and the mark, with at least one character before. -/
def isHeaderBody (close : Char) (t : List Char) : Bool :=
  let ending := ['.', 'h', close]
  t.all (fun c => !Text.isBlank c) && ending.isSuffixOf t && ending.length < t.length

/-- The name of a header in angle brackets or quotes. -/
def isHeaderName : List Char → Bool
  | '<' :: t => isHeaderBody '>' t
  | '"' :: t => isHeaderBody '"' t
  | _ => false

/-- A trimmed line is a well-formed inclusion. -/
def isInclusion (t : List Char) : Bool :=
  match Declaration.readKeyword ["#include"] t with
  | some name => isHeaderName name
  | none => false

/-- Reports inclusions that are not well formed. -/
def includeForm (d : Document) : List Diagnostic :=
  (d.lines.filter fun l =>
    "#include".toList.isPrefixOf l.trimmed && !isInclusion l.trimmed).map fun l =>
      .of .includeForm l.number "Incorrect syntax after #include."

end StyleAudit.Rule
