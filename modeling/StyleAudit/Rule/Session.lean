import StyleAudit.Declaration.Scan
import StyleAudit.Disk
import StyleAudit.Nesting
import StyleAudit.Rule.Catalog
import StyleAudit.Settings.Basic

/-!
# Sessions

What the rules of one audit share: the disk, the estimate of nesting, the module that a declaration
has established, and the declarations of the document, which are asked for once.  If the source of
declarations fails, the first rule that asks gets its failure, and later ones get a failure that
repeats the message.
-/

namespace StyleAudit

/-- Where declarations come from.  A source may use the disk, and leaves the disk behind as it has
changed it. -/
abbrev DeclarationSource := Document → Disk → Except Fault (List Declaration) × Disk

/-- The lines of the document themselves as the source of its declarations. -/
def DeclarationSource.ofLines : DeclarationSource := fun d disk => (.ok d.declarations, disk)

/-- The state that the rules of one audit share. -/
structure Session where
  /-- The language of the document. -/
  language : Language
  /-- The thresholds. -/
  thresholds : Thresholds
  /-- Where declarations come from. -/
  source : DeclarationSource
  /-- The estimate of nesting, as the last rule that used it left it. -/
  nesting : Nesting
  /-- The disk, as the tools that rules have called left it. -/
  disk : Disk
  /-- The module that a declaration has established. -/
  established : Option (List Char) := none
  /-- The declarations, or the message of the failure, once they were asked for. -/
  known : Option (Except String (List Declaration)) := none

namespace Session

/-- The state before the first rule. -/
def start (language : Language) (thresholds : Thresholds) (source : DeclarationSource)
    (disk : Disk) : Session where
  language
  thresholds
  source
  nesting := .start language
  disk

/-- What is kept of the answer of a source: its declarations, or the message of its failure. -/
def kept : Except Fault (List Declaration) → Option (Except String (List Declaration))
  | .ok found => some (.ok found)
  | .error (.failure e) => some (.error e.message)
  | .error .overflow => none

/-- The declarations of the document, asked for at most once. -/
def declarations (s : Session) (d : Document) :
    Except Fault (List Declaration) × Session :=
  match s.known with
  | some (.ok found) => (.ok found, s)
  | some (.error message) => (.error (.failure (.rule "declarations" message)), s)
  | none =>
    let (answer, disk) := s.source d s.disk
    (answer, { s with disk, known := kept answer })

/-- Observes one line from the initial state of the estimate. -/
def observe (s : Session) (line : List Char) : LineEvent × Session :=
  let (event, nesting) := s.nesting.reset.observe line
  (event, { s with nesting := nesting })

/-- Observes all lines of a document from the initial state of the estimate. -/
def observeAll (s : Session) (d : Document) : List LineEvent × Session :=
  let (events, nesting) := s.nesting.reset.observeAll (d.lines.map (·.text))
  (events, { s with nesting := nesting })

end Session

/-- The outcome of a rule: its findings, a failure or an overflow. -/
abbrev Findings := Except Fault (List Diagnostic)

end StyleAudit
