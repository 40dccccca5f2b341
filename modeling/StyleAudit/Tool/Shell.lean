import StyleAudit.Tool.Shell.Run

/-!
# The tools at hand

`Shell.tools` answers calls of the small tools and of `sh`; any other command does not exist.

This is one instance of `Tools`, and the modules below this one are only there for it: they stand
for programs of the system that audits may call.  Audits take their tools as a parameter, and all
that is proved about audits holds for any tools, or for those that keep to a stated assumption.
-/

namespace StyleAudit.Shell

/-- The number of steps that a script may take. -/
def maxSteps : Nat := 20000

/-- Answers a call of one of the small tools.  A command with a slash is a path: a directory may
not be run, and neither may a file. -/
def tools : Tools := fun disk call =>
  let name := toolName call.command
  if name == "sh" then .ok (runSh maxSteps disk [] [] call.args)
  else match external? disk [] name call.args with
    | some r => .ok (⟨.code r.code, r.out, r.err⟩, disk)
    | none =>
      if call.command == "." || call.command == ".." then .error (.file .denied)
      else if call.command.toList.contains '/' then
        match disk.resolve ⟨call.command⟩ with
        | .ok (_, some _) => .error (.file .denied)
        | .ok (_, none) => .error (.file .missing)
        | .error e => .error (.file e)
      else if Disk.maxName < call.command.utf8ByteSize then .error (.file .nameTooLong)
      else .error (.file .missing)

end StyleAudit.Shell
