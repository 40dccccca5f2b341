import StyleAudit.Report.Basic

/-!
# Markup

Reports as HTML: a tree of elements and texts, written without blanks between tags.  Text and
the values of attributes are escaped, so that no text can be read as a tag; only the style sheet
and a body that is given as markup are written as they stand.
-/

namespace StyleAudit

/-- A piece of markup. -/
inductive Markup where
  /-- Text, which is escaped. -/
  | text (s : String)
  /-- Markup that is written as it stands. -/
  | raw (s : String)
  /-- An element without content or closing tag. -/
  | void (tag : String) (attributes : List (String × String))
  /-- An element with its content. -/
  | element (tag : String) (attributes : List (String × String)) (content : List Markup)

namespace Markup

/-- One character of a text. -/
def escapeChar (c : Char) : List Char :=
  if c == '&' then "&amp;".toList
  else if c == '<' then "&lt;".toList
  else if c == '>' then "&gt;".toList
  else if c == '"' then "&quot;".toList
  else [c]

/-- A text with the characters escaped that markup gives a meaning. -/
def escape (s : String) : List Char := s.toList.flatMap escapeChar

/-- The attributes of a tag. -/
def writeAttributes (attributes : List (String × String)) : List Char :=
  attributes.flatMap fun a => ' ' :: a.1.toList ++ ['=', '"'] ++ escape a.2 ++ ['"']

/-- An opening tag. -/
def opening (tag : String) (attributes : List (String × String)) : List Char :=
  '<' :: tag.toList ++ writeAttributes attributes ++ ['>']

/-- A closing tag. -/
def closing (tag : String) : List Char := '<' :: '/' :: tag.toList ++ ['>']

mutual

/-- Writes a piece of markup. -/
def write : Markup → List Char
  | .text s => escape s
  | .raw s => s.toList
  | .void tag attributes => opening tag attributes
  | .element tag attributes content => opening tag attributes ++ writeAll content ++ closing tag

/-- Writes pieces one after the other. -/
def writeAll : List Markup → List Char
  | [] => []
  | m :: ms => write m ++ writeAll ms

end

/-- A rule of a style sheet: what it applies to, and its declarations. -/
def styleRule (selector : String) (declarations : List String) : String :=
  selector ++ " \x7b\n" ++ String.join (declarations.map fun d => "    " ++ d ++ ";\n") ++ "\x7d\n"

/-- The style sheet of a page. -/
def styleSheet : String :=
  "\n" ++ String.join
    [styleRule "body"
        ["font-family: -apple-system, BlinkMacSystemFont, \"Segoe UI\", " ++
            "Roboto, Helvetica, Arial, sans-serif",
          "color: #333"],
      styleRule "table"
        ["width: 50%",
          "margin: 20px auto",
          "border-collapse: collapse",
          "border: 4px solid black",
          "background-color: #F0F0F0"],
      styleRule "th, td"
        ["border: 2px solid black",
          "padding: 15px"],
      styleRule "th"
        ["background-color: #ADD8E6",
          "color: black",
          "font-weight: bold"],
      styleRule "td.metric"
        ["text-align: left"],
      styleRule "td.count"
        ["text-align: center"],
      styleRule "td.flagged"
        ["font-weight: bold",
          "color: #B00020"]]

/-- The style of a table. -/
def tableStyle : String :=
  "width: 50%; margin: 20px auto; border-collapse: collapse; border: 4px solid black; " ++
    "background-color: #F0F0F0;"

/-- The style of a heading. -/
def headingStyle : String :=
  "border: 2px solid black; padding: 15px; background-color: #ADD8E6; color: black; " ++
    "font-weight: bold;"

/-- The style of a label. -/
def labelStyle : String := "border: 2px solid black; padding: 15px; text-align: left;"

/-- The style of a count. -/
def countStyle : String := "border: 2px solid black; padding: 15px; text-align: center;"

/-- An element without attributes. -/
def plain (tag : String) (content : List Markup) : Markup := .element tag [] content

/-- A page with a title and a body. -/
def page (title : String) (body : List Markup) : String :=
  String.ofList ("<!DOCTYPE html>".toList ++
    write (.element "html" [("lang", "en")]
      [plain "head"
          [.void "meta" [("charset", "UTF-8")], plain "title" [.text title],
            plain "style" [.raw styleSheet]],
        plain "body" body]))

/-- A row of a table of counts. -/
def countRow (label : String) (count : Nat) : Markup :=
  plain "tr"
    [.element "td" [("class", "metric"), ("style", labelStyle)] [.text label],
      .element "td"
        [("class", if 0 < count then "count flagged" else "count"), ("style", countStyle)]
        [.text (toString count)]]

/-- A table of counts with two headings. -/
def countTable (first second : String) (rows : List (String × Nat)) : Markup :=
  .element "table" [("style", tableStyle)]
    [plain "thead"
        [plain "tr"
          [.element "th" [("style", headingStyle)] [.text first],
            .element "th" [("style", headingStyle)] [.text second]]],
      plain "tbody" (rows.map fun r => countRow r.1 r.2)]

end Markup

namespace Report

open Markup

/-- Counts of every rule of the catalog. -/
def ruleCounts (report : Report) : List (String × Nat) :=
  RuleId.all.map fun r => (r.title, report.count r)

/-- Counts of errors, warnings and failed checks. -/
def levelCounts (report : Report) : List (String × Nat) :=
  [("Error", report.countSeverity .error), ("Warning", report.countSeverity .warning),
    ("Failed checks", report.failures.length)]

/-- The table of the rules. -/
def ruleMarkup (report : Report) : Markup :=
  countTable "Code Quality Metric" "Anomaly Frequency" report.ruleCounts

/-- The table of the levels. -/
def levelMarkup (report : Report) : Markup := countTable "Log Level" "Count" report.levelCounts

/-- The list of failed checks, if there are any. -/
def failureMarkup (report : Report) : List Markup :=
  if report.failures.isEmpty then []
  else
    [plain "p" [.text "The following checks could not be completed:"],
      plain "ul" (report.failures.map fun f =>
        plain "li" [.text f.rule.title, .text ": ", .text f.message])]

/-- The body of the mail that carries a log. -/
def mailBody (report : Report) : String :=
  let name := String.ofList (report.path.fileName?.getD [])
  page "Script Analysis Log"
    ([plain "p"
        [.text "Please find attached the log file for the script analysis of ",
          plain "strong" [.text name], .text "."],
      plain "p" [plain "u" [plain "b" [.text "Summary:"]]], report.levelMarkup,
      report.ruleMarkup] ++ report.failureMarkup ++
    [plain "p" [.text "Please refer to the attached log for the detailed analysis."],
      plain "p" [.text "Regards"]])

end Report

end StyleAudit
