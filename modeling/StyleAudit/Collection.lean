import StyleAudit.Disk
import StyleAudit.Source.Document

/-!
# Collections of sources

A directory is searched for sources depth first, with the entries of each directory in the order
of their names.  Directories named `Logs` hold the results of earlier audits and are passed over.
The search goes from entry to entry, so that no path below the given one is too long for it.
-/

namespace StyleAudit

/-- The name of the directory for logs beside a source. -/
def logDirName : String := "Logs"

/-- Sorts by name, which is the order of code points. -/
def sortByName (items : List (String × α)) : List (String × α) :=
  items.mergeSort fun a b => (Path.compareChars a.1.toList b.1.toList).isLE

mutual

/-- The sources at or below a node that stands at a path under a name. -/
def Node.sources (path : Path) (name : String) : Node → List Path
  | .file _ => if path.isSource then [path] else []
  | .dir _ entries =>
    if name == logDirName then []
    else ((sortByName (entrySources path entries)).map (·.2)).flatten

/-- The sources of each entry of a directory. -/
def entrySources (path : Path) : List (String × Node) → List (String × List Path)
  | [] => []
  | (name, node) :: rest =>
    (name, node.sources (path.join name) name) :: entrySources path rest

end

namespace Disk

/-- The sources at or below a path. -/
def collect (d : Disk) (p : Path) : Except Failure (List Path) :=
  match d.resolve p with
  | .error e => .error (e.during "walk directory" p)
  | .ok (_, none) => .error (DiskError.missing.during "walk directory" p)
  | .ok (_, some node) =>
    .ok (node.sources p ((p.fileName?.map String.ofList).getD p.text))

/-- The sources that arguments stand for: a file for itself, a directory for the sources in
it. -/
def expand (d : Disk) : List Path → Except Failure (List Path)
  | [] => .ok []
  | p :: rest =>
    let here := if d.isDir p then d.collect p
      else if d.isFile p then .ok [p]
      else .error (.notFound p)
    match here with
    | .error e => .error e
    | .ok found => (d.expand rest).map (found ++ ·)

/-- Loads the source at a path. -/
def load (d : Disk) (p : Path) : Except Failure Document :=
  if !d.contains p then .error (.notFound p)
  else match d.read p with
    | .ok bytes => .ok (.ofBytes p bytes)
    | .error e => .error (e.during "read source file" p)

end Disk

end StyleAudit
