import StyleAudit.Declaration.Marker
import StyleAudit.Rule.Session
import StyleAudit.Tool.Basic

/-!
# Preprocessors

Declarations may be searched for in the output of a preprocessor, so that conditional blocks do
not confuse the scan.  Lines that the markers place outside the document are dropped.
-/

namespace StyleAudit

/-- A preprocessor and its arguments before the path of the source. -/
structure Preprocessor where
  /-- The command. -/
  command : String
  /-- Its arguments. -/
  args : List String

namespace Preprocessor

/-- The preprocessor of the settings. -/
def ofSettings (n : Naming) : Preprocessor := ⟨n.preprocessor, n.preprocessorArgs⟩

/-- The message if a preprocessor does not exist. -/
def missingTool : String :=
  "command not found. Please ensure it is installed and in your PATH."

/-- The lines of a source in the output of the preprocessor, with their numbers in the source. -/
def readOutput (p : Preprocessor) (source : Path) (output : ToolOutput) :
    Except Fault (List (Nat × List Char)) :=
  if output.status.isSuccess then
    match Marker.locate (Utf8.decode output.stdout) source with
    | some lines => .ok lines
    | none => .error .overflow
  else
    .error (.failure (.tool p.command
      ("exited with " ++ output.status.render ++ ": " ++ streamText output.stderr)))

/-- The lines of a source after preprocessing, and the disk that the preprocessor leaves. -/
def run (p : Preprocessor) (tools : Tools) (disk : Disk) (source : Path) :
    Except Fault (List (Nat × List Char)) × Disk :=
  let (output, disk) := tools.run disk missingTool ⟨p.command, p.args ++ [source.text]⟩
  ((output.mapError Fault.failure).bind (p.readOutput source), disk)

/-- Declarations from the output of the preprocessor. -/
def declarations (p : Preprocessor) (tools : Tools) : DeclarationSource := fun d disk =>
  let (lines, disk) := p.run tools disk d.path
  (lines.map fun lines => Declaration.scan (lines.filter fun l => 1 ≤ l.1 && l.1 ≤ d.size), disk)

end Preprocessor

/-- The source of declarations that the settings ask for. -/
def Naming.source (n : Naming) (tools : Tools) : DeclarationSource :=
  if n.preprocess then (Preprocessor.ofSettings n).declarations tools
  else DeclarationSource.ofLines

end StyleAudit
