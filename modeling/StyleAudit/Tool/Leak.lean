import StyleAudit.Settings.Basic
import StyleAudit.Text.Lines
import StyleAudit.Tool.Basic

/-!
# The search for leaks

The source is compiled and the program is run under a checker.  Only the text that the checker
prints counts: it is clean if the text holds the clean marker, and the first line that speaks of
lost memory is its summary.
-/

namespace StyleAudit

/-- What a checker found. -/
structure LeakVerdict where
  /-- Whether nothing leaks. -/
  clean : Bool
  /-- What was lost, if the checker says so. -/
  summary : Option String

namespace LeakSettings

/-- Both compilers replaced by one. -/
def withCompiler (s : LeakSettings) (compiler : String) : LeakSettings :=
  { s with cCompiler := compiler, cppCompiler := compiler }

/-- The checker and its arguments replaced. -/
def withChecker (s : LeakSettings) (checker : String) (args : List String) : LeakSettings :=
  { s with checker := checker, checkerArgs := args }

/-- The compiler of a language. -/
def compilerFor (s : LeakSettings) : Language → String
  | .cpp => s.cppCompiler
  | _ => s.cCompiler

/-- Reads the verdict off the text of the checker. -/
def readVerdict (s : LeakSettings) (t : List Char) : LeakVerdict where
  clean := Text.occursIn s.cleanMarker.toList t
  summary := (Text.lines t).findSome? fun l =>
    (Text.fromFirst "definitely lost:".toList l).map fun rest => String.ofList (Text.trim rest)

/-- The message if a compiler or checker does not exist. -/
def missingTool : String :=
  "memory leak check tool not found. Please ensure it is installed and in your PATH."

/-- The program that a source is compiled to, in the directory for builds. -/
def programFor (buildDir : Path) (source : Path) : Path :=
  buildDir.join ((source.stem?.map String.ofList).getD "a.out")

/-- The output of a compiler, which must have succeeded. -/
def builtBy (compiler : String) (output : ToolOutput) : Except Failure Unit :=
  if output.status.isSuccess then .ok ()
  else .error (.tool compiler
    ("compilation exited with " ++ output.status.render ++ ": " ++ streamText output.stderr))

/-- Compiles a source to a program and runs the program under the checker. -/
def probe (s : LeakSettings) (tools : Tools) (program : Path) (source : Path)
    (language : Language) (disk : Disk) : Except Failure LeakVerdict × Disk :=
  let compiler := s.compilerFor language
  let (built, disk) := tools.run disk missingTool ⟨compiler, [source.text, "-o", program.text]⟩
  match built.bind (builtBy compiler) with
  | .error e => (.error e, disk)
  | .ok () =>
    let (ran, disk) := tools.run disk missingTool ⟨s.checker, s.checkerArgs ++ [program.text]⟩
    (ran.map fun ran => s.readVerdict (Utf8.decode ran.stdout ++ Utf8.decode ran.stderr), disk)

/-- Searches for leaks in a directory for builds, where nothing must be before.  The directory is
removed in the end; anything else that the tools and the program leave stays. -/
def check (s : LeakSettings) (tools : Tools) (buildDir : Path) (source : Path)
    (language : Language) (disk : Disk) : Except Failure LeakVerdict × Disk :=
  match disk.createDirs buildDir with
  | (.error e, disk) =>
    (.error (e.during "create build directory" (buildDir.parent?.getD buildDir)), disk)
  | (.ok (), disk) =>
    let (verdict, disk) := s.probe tools (programFor buildDir source) source language disk
    (verdict, disk.remove buildDir)

end LeakSettings

end StyleAudit
