import StyleAudit.Disk
import StyleAudit.Settings.Decode
import StyleAudit.Text.Utf8

/-!
# Finding settings

Settings come from a file that is named, or from the nearest file with one of three names: each
directory from the working directory up to the root is searched for them in turn.  The first
file that exists decides; if it is unusable, no other one is tried.
-/

namespace StyleAudit

namespace Disk

/-- The text of a file. -/
def readText (d : Disk) (operation : String) (p : Path) : Except Failure (List Char) :=
  match d.read p with
  | .error e => .error (e.during operation p)
  | .ok bytes =>
    match Utf8.decode? bytes with
    | some text => .ok text
    | none => .error (.io operation (some p) (some "stream did not contain valid UTF-8"))

/-- Reads settings from a file that exists, and accepts them if their thresholds are usable. -/
def readSettings (d : Disk) (p : Path) : Except Failure Settings := do
  let text ← d.readText "read config file" p
  let s ← (Settings.parse text).mapError fun e => .settings e.message (some p) none
  s.thresholds.validate
  return s

/-- The settings in a file, if the file exists. -/
def settingsAt (d : Disk) (p : Path) : Except Failure (Option Settings) :=
  if d.contains p then (d.readSettings p).map some else .ok none

end Disk

namespace Settings

/-- The names of configuration files, the preferred one first. -/
def fileNames : List String := ["ScriptLint.toml", ".scriptlint.toml", "scriptlint.toml"]

/-- The directory at a location. -/
def directory (location : List String) : Path := ⟨"/" ++ String.intercalate "/" location⟩

/-- A location and those above it, the nearest first, given in reverse. -/
def upwards : List String → List (List String)
  | [] => [[]]
  | name :: above => (name :: above).reverse :: upwards above

/-- The files that may hold the settings for a working directory, the nearest first. -/
def candidates (location : List String) : List Path :=
  (upwards location.reverse).flatMap fun l => fileNames.map (directory l).join

end Settings

namespace Disk

/-- Takes the settings from the first of some files that exists. -/
def firstSettings (d : Disk) : List Path → Except Failure (Option (Path × Settings))
  | [] => .ok none
  | p :: rest =>
    match d.settingsAt p with
    | .error e => .error e
    | .ok (some s) => .ok (some (p, s))
    | .ok none => d.firstSettings rest

/-- Searches the working directory and those above it for settings. -/
def discoverSettings (d : Disk) : Except Failure (Option (Path × Settings)) :=
  d.firstSettings (Settings.candidates d.cwd)

/-- The settings in a file that must exist. -/
def namedSettings (d : Disk) (p : Path) : Except Failure (Path × Settings) :=
  match d.settingsAt p with
  | .error e => .error e
  | .ok (some s) => .ok (p, s)
  | .ok none => .error (.settings "Configuration file does not exist" (some p) none)

/-- The settings in the named file, or the nearest ones if none is named. -/
def loadSettings (d : Disk) : Option Path → Except Failure (Option (Path × Settings))
  | some p => (d.namedSettings p).map some
  | none => d.discoverSettings

end Disk

end StyleAudit
