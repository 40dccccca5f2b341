import Std.Time.Zoned
import StyleAudit.Command.Run
import StyleAudit.Tool.Shell

/-!
# The command line

The program is a function on disks; here the part of the real disk that it may look at is read
in, and the logs that it has made are written out.
-/

namespace StyleAudit.Main

/-- Names of the directories of an absolute path. -/
def locationOf (path : String) : List String :=
  (Text.splitAtChar '/' path.toList).filterMap fun s =>
    if s.isEmpty || s == ['.'] then none else some (String.ofList s)

/-- Reads a file, or a directory with all that is in it. -/
partial def snapshot (path : String) : IO (Option Node) := do
  let place := System.mkFilePath [path]
  if ← place.isDir then
    let entries ← place.readDir
    let nodes ← entries.toList.filterMapM fun e => do
      return (← snapshot (path ++ "/" ++ e.fileName)).map (e.fileName, ·)
    return some (.dir false nodes)
  else if ← place.pathExists then
    return some (.file (← IO.FS.readBinFile place).toList)
  else
    return none

/-- Puts a node at a location, with the directories above it. -/
def graft (parent : Node) (node : Node) : List String → Node
  | [] => node
  | name :: names => parent.put name (graft ((parent.child? name).getD (.dir false [])) node names)

/-- Reads what is at a path into the disk. -/
def readInto (d : Disk) (path : Path) : IO Disk := do
  let absolute := if path.isAbsolute then path else (Settings.directory d.cwd).join path.text
  match ← snapshot absolute.text with
  | none => return d
  | some node =>
    let location := locationOf (← IO.FS.realPath absolute.text).toString
    return { d with root := graft d.root node location }

/-- Files below a node, with their locations. -/
partial def filesBelow (location : List String) : Node → List (List String × List UInt8)
  | .file bytes => [(location, bytes)]
  | .dir _ entries => entries.flatMap fun e => filesBelow (location ++ [e.1]) e.2

/-- Directories below a node that everyone may write into. -/
partial def sharedBelow (location : List String) : Node → List (List String)
  | .file _ => []
  | .dir shared entries =>
    (if shared then [location] else []) ++
      entries.flatMap fun e => sharedBelow (location ++ [e.1]) e.2

/-- Writes out the files that are new, and opens the directories that are shared. -/
def writeOut (before after : Disk) : IO Unit := do
  for (location, bytes) in filesBelow [] after.root do
    if (before.root.get? location).isNone then
      IO.FS.createDirAll (Settings.directory location.dropLast).text
      IO.FS.writeBinFile (Settings.directory location).text ⟨bytes.toArray⟩
  let full : IO.AccessRight := ⟨true, true, true⟩
  for location in sharedBelow [] after.root do
    IO.setAccessRights (Settings.directory location).text ⟨full, full, full⟩

/-- The time of the clock. -/
def now : IO Moment := do
  let t ← Std.Time.PlainDateTime.now
  return {
    year := t.date.year.toInt.toNat
    month := t.date.month.val.toNat
    day := t.date.day.val.toNat
    hour := t.time.hour.val.toNat
    minute := t.time.minute.val.toNat
    second := t.time.second.val.toNat
    millisecond := t.time.nanosecond.val.toNat / 1000000 }

/-- Reads what a check may look at: its paths, the logs beside them, and its settings. -/
def readDisk (args : CheckArgs) : IO Disk := do
  let start : Disk := { cwd := locationOf (← IO.currentDir).toString }
  let start := { start with root := graft start.root (.dir false []) start.cwd }
  let files := args.config.toList ++ Settings.candidates start.cwd ++ args.paths
  let d ← files.foldlM readInto start
  let general := ((d.loadSettings args.config).toOption.bind (·.map (·.2.general))).getD {}
  let sources := (d.expand args.paths).toOption.getD []
  (sources.map general.logDir).foldlM readInto d

/-- The variable with the password, and no other one. -/
def readPassword (d : Disk) (args : CheckArgs) : IO Environment := do
  let settings := ((d.loadSettings args.config).toOption.bind (·.map (·.2))).getD {}
  let value ← IO.getEnv settings.mail.passwordVariable
  return fun name => if name == settings.mail.passwordVariable then value else none

/-- How the program is used. -/
def usage : String := "Usage: scriptlint <check PATHS... | rules | help | --version>"

/-- Runs the program. -/
def run (args : List String) : IO UInt32 := do
  let checkArgs : CheckArgs := match Command.parse args with
    | .ok (.check a) => a
    | _ => {}
  let disk ← readDisk checkArgs
  let start ← now
  let world : World := {
    disk
    env := ← readPassword disk checkArgs
    clocks := fun _ _ => start
    tools := Shell.tools
    network := fun _ _ => .error "no connection"
    buildDir := ⟨"/tmp/scriptlint"⟩ }
  let done := Command.run world args
  match Command.parse args with
  | .error .versionRequested => pure ()
  | .error .helpRequested => IO.println usage
  | .error _ => IO.eprintln usage
  | .ok _ => pure ()
  writeOut disk done.disk
  IO.print done.stdout
  done.stderr.forM IO.eprintln
  return done.code.toUInt32

end StyleAudit.Main

/-- Runs the program on its arguments. -/
def main (args : List String) : IO UInt32 := StyleAudit.Main.run args
