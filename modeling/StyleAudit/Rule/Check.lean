import StyleAudit.Rule.Consistency
import StyleAudit.Rule.Inclusion
import StyleAudit.Rule.Layout
import StyleAudit.Rule.Naming
import StyleAudit.Rule.Structure
import StyleAudit.Tool.Leak

/-!
# Checks

A check is a rule that can be evaluated: it reads a document in a session and returns findings
and the session it leaves behind.  `Check.catalog` gives the check of each rule of the catalog.
-/

namespace StyleAudit

/-- A rule that can be evaluated. -/
structure Check where
  /-- The rule under which findings are reported. -/
  rule : RuleId
  /-- The languages the check applies to. -/
  applies : Language → Bool
  /-- Evaluates the check. -/
  evaluate : Document → Session → Findings × Session

/-- The search for leaks in a program, for a source and its language.  It leaves the disk behind as
its tools and the program have changed it. -/
abbrev LeakProbe := Path → Language → Disk → Except Failure LeakVerdict × Disk

namespace Rule

/-- Reports a program that leaks, on the first line. -/
def memoryLeak (v : LeakVerdict) : List Diagnostic :=
  if v.clean then []
  else match v.summary with
    | some s => [.of .memoryLeak 1 ("Memory leak detected! (" ++ s ++ ")")]
    | none => [.of .memoryLeak 1 "Memory leak detected!"]

/-- Findings from the declarations of a document. -/
def onDeclarations (f : List Declaration → List Diagnostic) (d : Document) (s : Session) :
    Findings × Session :=
  let (found, s) := s.declarations d
  (found.map f, s)

/-- The rule on modules, which also establishes the module. -/
def evaluateModule (d : Document) (s : Session) : Findings × Session :=
  match s.declarations d with
  | (.error e, s) => (.error e, s)
  | (.ok found, s) =>
    (.ok (moduleName found), { s with established := (moduleOf found).or s.established })

/-- The rule on indentation; the spaces it asks for must be counts. -/
def evaluateIndentation (d : Document) (s : Session) : Findings × Session :=
  let (events, s) := s.observeAll d
  if indentationFits s.thresholds.indentWidth d events then
    (.ok (indentationSpacing s.thresholds.indentWidth d events), s)
  else (.error .overflow, s)

/-- The rule on repetitions; blocks without lines cannot be searched for. -/
def evaluateRepetition (d : Document) (s : Session) : Findings :=
  if s.thresholds.sequenceLength = 0 then
    .error (.failure (.rule RuleId.repetition.name "sequence length must be at least 1"))
  else .ok (repetition s.thresholds d)

/-- The rule on the number of functions. -/
def evaluateFunctionCount (d : Document) (s : Session) : Findings × Session :=
  if d.isEmpty then (.ok [], s)
  else if s.language == .perl then (.ok (functionCount s.thresholds (subroutineLines d)), s)
  else
    let (events, s) := s.observeAll d
    (.ok (functionCount s.thresholds (openingLines d events)), s)

/-- The rule on leaks; an empty document is not compiled. -/
def evaluateLeak (probe : LeakProbe) (d : Document) (s : Session) : Findings × Session :=
  if d.isEmpty then (.ok [], s)
  else
    let (verdict, disk) := probe d.path s.language s.disk
    ((verdict.mapError Fault.failure).map memoryLeak, { s with disk })

/-- Evaluates a rule of the catalog. -/
def evaluate (probe : LeakProbe) (r : RuleId) (d : Document) (s : Session) :
    Findings × Session :=
  match r with
  | .includeDirective => (.ok (includeDirective d), s)
  | .totalLines => (.ok (totalLines s.thresholds d), s)
  | .indentationTabs => (.ok (indentationTabs d), s)
  | .indentationSpacing => evaluateIndentation d s
  | .includeForm => (.ok (includeForm d), s)
  | .functionCase => onDeclarations functionCase d s
  | .variableCase => onDeclarations variableCase d s
  | .pointerName => onDeclarations pointerName d s
  | .moduleName => evaluateModule d s
  | .typeCase => onDeclarations typeCase d s
  | .repetition => (evaluateRepetition d s, s)
  | .functionCount => evaluateFunctionCount d s
  | .encoding => (.ok (encoding d), s)
  | .indentationChar => (.ok (indentationChar d), s)
  | .lineEndings => (.ok (lineEndings d), s)
  | .closingBrace => (.ok (closingBrace d), s)
  | .codeReuse => (.ok (codeReuse d), s)
  | .excessWhitespace => (.ok (excessWhitespace d), s)
  | .trailingWhitespace => (.ok (trailingWhitespace d), s)
  | .memoryLeak => evaluateLeak probe d s

end Rule

/-- The check of a rule of the catalog. -/
def Check.catalog (probe : LeakProbe) (r : RuleId) : Check :=
  ⟨r, r.appliesTo, Rule.evaluate probe r⟩

end StyleAudit
