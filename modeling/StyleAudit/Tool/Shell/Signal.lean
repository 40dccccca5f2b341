import StyleAudit.Text.Numeral

/-!
# Signals

Signals by number and name, and the words for their effect.
-/

namespace StyleAudit.Shell

/-- A signal: its number, its name, and the words for what it does to a process. -/
structure Signal where
  /-- The number. -/
  number : Nat
  /-- The name. -/
  name : String
  /-- What it does. -/
  effect : String

/-- The signals with names of their own. -/
def signals : List Signal :=
  [⟨1, "HUP", "Hangup"⟩, ⟨2, "INT", "Interrupt"⟩, ⟨3, "QUIT", "Quit"⟩,
    ⟨4, "ILL", "Illegal instruction"⟩, ⟨5, "TRAP", "Trace/breakpoint trap"⟩,
    ⟨6, "ABRT", "Aborted"⟩, ⟨7, "BUS", "Bus error"⟩, ⟨8, "FPE", "Floating point exception"⟩,
    ⟨9, "KILL", "Killed"⟩, ⟨10, "USR1", "User defined signal 1"⟩,
    ⟨11, "SEGV", "Segmentation fault"⟩, ⟨12, "USR2", "User defined signal 2"⟩,
    ⟨13, "PIPE", "Broken pipe"⟩, ⟨14, "ALRM", "Alarm clock"⟩, ⟨15, "TERM", "Terminated"⟩,
    ⟨16, "16", "Stack fault"⟩, ⟨17, "CHLD", "Child exited"⟩, ⟨18, "CONT", "Continued"⟩,
    ⟨19, "STOP", "Stopped (signal)"⟩, ⟨20, "TSTP", "Stopped"⟩, ⟨21, "TTIN", "Stopped (tty input)"⟩,
    ⟨22, "TTOU", "Stopped (tty output)"⟩, ⟨23, "URG", "Urgent I/O condition"⟩,
    ⟨24, "XCPU", "CPU time limit exceeded"⟩, ⟨25, "XFSZ", "File size limit exceeded"⟩,
    ⟨26, "VTALRM", "Virtual timer expired"⟩, ⟨27, "PROF", "Profiling timer expired"⟩,
    ⟨28, "WINCH", "Window changed"⟩, ⟨29, "IO", "I/O possible"⟩, ⟨30, "PWR", "Power failure"⟩,
    ⟨31, "SYS", "Bad system call"⟩, ⟨34, "RTMIN", "Real-time signal 0"⟩]

/-- The greatest number of a signal. -/
def maxSignal : Nat := 64

/-- The number of the signal that a text names, by its number or its name. -/
def signal? (s : String) : Option Nat :=
  match Text.natOfDigits? 10 s.toList with
  | some n => if n ≤ maxSignal then some n else none
  | none =>
    let name := String.ofList (s.toList.map Char.toUpper)
    (signals.find? (·.name == name)).map (·.number)

/-- Signals that end nothing: none at all, and those that are passed over. -/
def isHarmless (signal : Nat) : Bool := [0, 17, 18, 23, 28].contains signal

/-- The line that tells of a process that a signal has ended; some signals are not told of. -/
def obituary (signal : Nat) : String :=
  if signal == 2 || signal == 13 then ""
  else ((signals.find? (·.number == signal)).map (·.effect ++ "\n")).getD ""

end StyleAudit.Shell
