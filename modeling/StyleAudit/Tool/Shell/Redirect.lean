import StyleAudit.Tool.Shell.State

/-!
# Redirections

A redirection lets a stream of a command go to a file, or come from one.
-/

namespace StyleAudit.Shell

open Script

/-- The words that special files have for targets. -/
def specialFile? (s : State) (file : String) : Option Target :=
  match file with
  | "/dev/null" => some .nowhere
  | "/dev/stdout" => some (s.target 1)
  | "/dev/stderr" => some (s.target 2)
  | _ => none

/-- Lets a stream go elsewhere. -/
def State.redirectTo (s : State) (stream : Nat) (t : Target) : State :=
  { s with targets := (stream, t) :: s.targets.filter (·.1 != stream) }

/-- Opens a file for writing. -/
def openFile (s : State) (file : String) (append : Bool) : Except String (Target × Disk) :=
  match specialFile? s file with
  | some t => .ok (t, s.disk)
  | none =>
    let failed (e : DiskError) : String :=
      "cannot create " ++ file ++ ": " ++
        (if e == .missing || e == .notDirectory then "Directory nonexistent" else e.reason)
    match s.disk.resolve ⟨file⟩ with
    | .error e => .error (failed e)
    | .ok (_, some (.dir _ _)) => .error (failed .isDirectory)
    | .ok (location, some (.file old)) =>
      .ok (.file location, s.disk.put location (.file (if append then old else [])))
    | .ok (location, none) => .ok (.file location, s.disk.put location (.file []))

/-- Why a redirection cannot be carried out. -/
inductive RedirectError where
  /-- The command fails. -/
  | refused (what : String)
  /-- The script ends. -/
  | malformed (what : String)

/-- Carries out a redirection whose word has been expanded. -/
def redirectOne (s : State) (stream : Nat) (r : Redirection) (word : String) :
    Except RedirectError State :=
  match r with
  | .read _ =>
    if word == "/dev/null" then .ok { s with input := [] }
    else match s.disk.read ⟨word⟩ with
      | .ok bytes => .ok { s with input := bytes }
      | .error e => .error (.refused ("cannot open " ++ word ++ ": " ++
          (if e == .missing || e == .notDirectory then "No such file" else e.reason)))
  | .here _ => .ok { s with input := Utf8.encode word.toList }
  | .write _ append =>
    match openFile s word append with
    | .ok (t, disk) => .ok ({ s with disk }.redirectTo stream t)
    | .error what => .error (.refused what)
  | .like _ =>
    if word == "-" then .ok (s.redirectTo stream .nowhere)
    else match word.toList.length, Text.natOfDigits? 10 word.toList with
      | 1, some n =>
        if n == 0 || (s.targets.lookup n).isSome then .ok (s.redirectTo stream (s.target n))
        else .error (.refused (word ++ ": Bad file descriptor"))
      | _, _ => .error (.malformed "Syntax error: Bad fd number")

end StyleAudit.Shell
