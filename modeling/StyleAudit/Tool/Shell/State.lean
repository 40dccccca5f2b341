import StyleAudit.Disk
import StyleAudit.Text.Numeral
import StyleAudit.Text.Utf8
import StyleAudit.Tool.Basic
import StyleAudit.Tool.Shell.Script

/-!
# The state of a script

A script runs on a state: the disk, variables, arguments, the input that is left, and what has
been printed so far.  Each stream of a command goes to some target, which redirections exchange;
what is printed is kept in the order in which it was printed.
-/

namespace StyleAudit.Shell

/-- Where a stream goes. -/
inductive Target where
  /-- To a stream of the surroundings. -/
  | stream (n : Nat)
  /-- To the file at a location. -/
  | file (location : List String)
  /-- Nowhere. -/
  | nowhere

/-- The state of a script. -/
structure State where
  /-- The disk. -/
  disk : Disk
  /-- The name by which the script was called. -/
  zero : String
  /-- Its arguments. -/
  args : List String := []
  /-- The values of variables. -/
  vars : List (String × String) := []
  /-- The names of variables that other scripts get to see. -/
  exported : List String := []
  /-- The names of variables that keep their values. -/
  constants : List String := []
  /-- Inside a function, the values that variables get back behind it. -/
  locals? : Option (List (String × Option String)) := none
  /-- The number of loops around the command. -/
  loops : Nat := 0
  /-- Scripts with names. -/
  functions : List (String × Script) := []
  /-- The code of the last command. -/
  last : Nat := 0
  /-- What can still be read. -/
  input : List UInt8 := []
  /-- Where streams go. -/
  targets : List (Nat × Target) := [(1, .stream 1), (2, .stream 2)]
  /-- What has gone to streams of the surroundings, the latest first. -/
  printed : List (Nat × List UInt8) := []
  /-- The number of the next stream that is to be caught. -/
  fresh : Nat := 3
  /-- The options that are set: with `e` the script ends at the first failure, with `f` patterns
  stand for themselves, with `u` variables without a value may not be used, and with `x` commands
  are shown. -/
  flags : List Char := []
  /-- A failure is being asked for. -/
  isTested : Bool := false
  /-- The command in whose name the script complains, if there is one. -/
  within : Option String := none
  /-- Scripts that run when a signal comes in; those of signal zero run at the end. -/
  traps : List (Nat × String) := []
  /-- Scripts that run next because a signal has come in. -/
  pending : List String := []
  /-- The signal that has ended the script, if one has. -/
  killer? : Option Nat := none

/-- How the script goes on. -/
inductive Flow where
  /-- With the next command. -/
  | next
  /-- Not at all: it ends with the last code. -/
  | exits
  /-- Not at all: a signal has ended it. -/
  | killed (signal : Nat)
  /-- Behind so many loops. -/
  | breaks (n : Nat)
  /-- With the next round of so many loops. -/
  | continues (n : Nat)
  /-- Behind the call of a function. -/
  | returns

/-- The number of the process that runs a script. -/
def processNumber : String := "1"

namespace State

/-- The value of a variable. -/
def var? (s : State) (name : String) : Option String := s.vars.lookup name

/-- An option is set. -/
def has (s : State) (flag : Char) : Bool := s.flags.contains flag

/-- Sets a variable. -/
def setVar (s : State) (name value : String) : State :=
  { s with vars := (name, value) :: s.vars.filter (·.1 != name) }

/-- Gives variables back the values that they had, or none. -/
def restore (s : State) (values : List (String × Option String)) : State :=
  values.foldl (fun s v =>
    match v.2 with
    | some value => s.setVar v.1 value
    | none => { s with vars := s.vars.filter (·.1 != v.1) }) s

/-- The characters at which words are cut. -/
def separators (s : State) : List Char :=
  match s.var? "IFS" with
  | some v => v.toList
  | none => [' ', '\t', '\n']

/-- The variables that other scripts get to see. -/
def environment (s : State) : List (String × String) :=
  s.vars.filter fun v => s.exported.contains v.1

/-- Sets the code of the last command. -/
def withCode (s : State) (code : Nat) : State := { s with last := code }

/-- Where a stream goes. -/
def target (s : State) (stream : Nat) : Target := (s.targets.lookup stream).getD .nowhere

/-- Prints bytes on a stream. -/
def print (s : State) (stream : Nat) (bytes : List UInt8) : State :=
  if bytes.isEmpty then s
  else match s.target stream with
    | .stream n => { s with printed := (n, bytes) :: s.printed }
    | .file location => { s with disk := s.disk.append location bytes }
    | .nowhere => s

/-- What has gone to a stream of the surroundings. -/
def caught (s : State) (stream : Nat) : List UInt8 :=
  (s.printed.reverse.filter (·.1 == stream)).flatMap (·.2)

/-- Complains in the name of a command, if one is given, with the name of the script and the number
of a line in front. -/
def complainAs (s : State) (line : Nat) (command : Option String) (what : String) : State :=
  let name := match command with
    | some c => c ++ ": "
    | none => ""
  let text := s.zero ++ ": " ++ toString line ++ ": " ++ name ++ what ++ "\n"
  s.print 2 (Utf8.encode text.toList)

/-- Complains. -/
def complain (s : State) (line : Nat) (what : String) : State := s.complainAs line s.within what

/-- The state behind a part of the script that leaves no traces in variables. -/
def leave (outer inner : State) : State :=
  { outer with
    disk := inner.disk
    input := inner.input
    printed := inner.printed
    fresh := inner.fresh
    last := inner.last
    killer? := inner.killer? }

/-- The value of a parameter: a variable, an argument or one of the special ones. -/
def parameter? (s : State) (name : List Char) : Option String :=
  match name with
  | ['@'] => if s.args.isEmpty then none else some (" ".intercalate s.args)
  | ['*'] => if s.args.isEmpty then none else some (" ".intercalate s.args)
  | ['#'] => some (toString s.args.length)
  | ['?'] => some (toString s.last)
  | ['-'] => some (String.ofList s.flags)
  | ['$'] => some processNumber
  | ['!'] => none
  | ['0'] => some s.zero
  | _ =>
    match Text.natOfDigits? 10 name with
    | some n => s.args[n - 1]?
    | none =>
      match String.ofList name with
      | "PWD" => some ((s.var? "PWD").getD ("/" ++ "/".intercalate s.disk.cwd))
      | name => s.var? name

end State

end StyleAudit.Shell
