import StyleAudit.Disk
import StyleAudit.Text.Utf8

/-!
# External tools

A tool is known by what it answers: called with a command and arguments on a disk, it cannot be
started, or it ends with a status and two streams of bytes.  Everything that calls tools takes them
as a parameter.
-/

namespace StyleAudit

/-- A call of a tool. -/
structure ToolCall where
  /-- The command. -/
  command : String
  /-- Its arguments. -/
  args : List String

/-- How a tool ended. -/
inductive ExitStatus where
  /-- It returned a code. -/
  | code (n : Nat)
  /-- A signal ended it. -/
  | signal (n : Nat)
  deriving DecidableEq

namespace ExitStatus

/-- The names of signals. -/
def signalName : Nat → String
  | 1 => " (SIGHUP)"
  | 2 => " (SIGINT)"
  | 3 => " (SIGQUIT)"
  | 4 => " (SIGILL)"
  | 5 => " (SIGTRAP)"
  | 6 => " (SIGABRT)"
  | 7 => " (SIGBUS)"
  | 8 => " (SIGFPE)"
  | 9 => " (SIGKILL)"
  | 10 => " (SIGUSR1)"
  | 11 => " (SIGSEGV)"
  | 12 => " (SIGUSR2)"
  | 13 => " (SIGPIPE)"
  | 14 => " (SIGALRM)"
  | 15 => " (SIGTERM)"
  | 16 => " (SIGSTKFLT)"
  | 17 => " (SIGCHLD)"
  | 18 => " (SIGCONT)"
  | 19 => " (SIGSTOP)"
  | 20 => " (SIGTSTP)"
  | 21 => " (SIGTTIN)"
  | 22 => " (SIGTTOU)"
  | 23 => " (SIGURG)"
  | 24 => " (SIGXCPU)"
  | 25 => " (SIGXFSZ)"
  | 26 => " (SIGVTALRM)"
  | 27 => " (SIGPROF)"
  | 28 => " (SIGWINCH)"
  | 29 => " (SIGIO)"
  | 30 => " (SIGPWR)"
  | 31 => " (SIGSYS)"
  | _ => ""

/-- The status as messages show it. -/
def render : ExitStatus → String
  | .code n => "exit status: " ++ toString n
  | .signal n => "signal: " ++ toString n ++ signalName n

/-- The tool succeeded. -/
def isSuccess (s : ExitStatus) : Bool := s == .code 0

end ExitStatus

/-- What a tool left behind. -/
structure ToolOutput where
  /-- How it ended. -/
  status : ExitStatus
  /-- What it printed. -/
  stdout : List UInt8 := []
  /-- What it complained about. -/
  stderr : List UInt8 := []

/-- Why a tool could not be started. -/
inductive StartError where
  /-- The command cannot be run as a file. -/
  | file (e : DiskError)
  /-- A word of the call has a zero byte in it. -/
  | zeroByte
  /-- A word of the call is too long. -/
  | tooLong

/-- The message of an error. -/
def StartError.message : StartError → String
  | .file e => e.message
  | .zeroByte => "nul byte found in provided data"
  | .tooLong => "Argument list too long (os error 7)"

/-- The tools at hand.  A tool leaves its output and the disk as it has changed it. -/
abbrev Tools := Disk → ToolCall → Except StartError (ToolOutput × Disk)

/-- The least number of bytes that is too many for a word of a call. -/
def wordLimit : Nat := 131072

/-- Calls a tool; a call with an unusable word does not reach it.  Whatever directory the tool goes
to, the caller stays in its own. -/
def Tools.call (tools : Tools) (disk : Disk) (call : ToolCall) :
    Except StartError (ToolOutput × Disk) :=
  let words := call.command :: call.args
  if words.any fun w => w.toList.any (·.toNat == 0) then .error .zeroByte
  else if words.any fun w => wordLimit ≤ w.utf8ByteSize then .error .tooLong
  else (tools disk call).map fun (output, left) => (output, { left with cwd := disk.cwd })

/-- The text of a stream in a message: decoded, without blank edges. -/
def streamText (bytes : List UInt8) : String := String.ofList (Text.trim (Utf8.decode bytes))

/-- Runs a tool; `missing` is the message if the command does not exist.  The disk is the one that
the tool leaves. -/
def Tools.run (tools : Tools) (disk : Disk) (missing : String) (call : ToolCall) :
    Except Failure ToolOutput × Disk :=
  match tools.call disk call with
  | .ok (output, disk) => (.ok output, disk)
  | .error (.file .missing) => (.error (.tool call.command missing), disk)
  | .error e => (.error (.tool call.command ("failed to execute: " ++ e.message)), disk)

end StyleAudit
