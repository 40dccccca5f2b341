import StyleAudit.Tool.Shell.Condition
import StyleAudit.Tool.Shell.Filter
import StyleAudit.Tool.Shell.Glyph
import StyleAudit.Tool.Shell.Signal
import StyleAudit.Tool.Shell.State

/-!
# Commands that need no script

Commands that a shell carries out itself, and the small tools, as changes of the state of a
script.
-/

namespace StyleAudit.Shell

/-- The value of a numeral that commands take, if it is one and not too great. -/
def number? (s : String) : Option Nat :=
  (Text.natOfDigits? 10 s.toList).filter (· ≤ 0x7FFFFFFF)

/-- A command complains and fails; the script goes on. -/
def fails (s : State) (line : Nat) (command what : String) : State × Flow :=
  ((s.complainAs line (some command) what).withCode 2, .next)

/-- A command complains and ends the script. -/
def ends (s : State) (line : Nat) (command what : String) : State × Flow :=
  ((s.complainAs line (some command) what).withCode 2, .exits)

/-! ### Signals -/

/-- What `kill` is used like. -/
def killUsage : String :=
  "Usage: kill [-s sigspec | -signum | -sigspec] [pid | job]... or\nkill -l [exitstatus]"

/-- The signal that the arguments of `kill` name, and the processes; or what is wrong with them. -/
def readKill (args : List String) : Except String (Nat × List String) :=
  match args with
  | "--" :: rest => .ok (15, rest)
  | "-s" :: name :: rest =>
    match signal? name with
    | some n => .ok (n, rest)
    | none => .error ("invalid signal number or name: " ++ name)
  | "-s" :: [] => .error "No arg for -s option"
  | arg :: rest =>
    match arg.toList with
    | '-' :: c :: name =>
      match signal? (String.ofList (c :: name)) with
      | some n => .ok (n, rest)
      | none => .error ("Illegal option -" ++ String.ofList [c])
    | _ => .ok (15, args)
  | [] => .ok (15, [])

/-- Runs `kill`.  A signal to the script itself ends it, unless there is a trap for it. -/
def kill (s : State) (line : Nat) (args : List String) : State × Flow :=
  match readKill args with
  | .error what => fails s line "kill" what
  | .ok (_, []) => fails s line "kill" killUsage
  | .ok (signal, process :: _) =>
    match number? process with
    | none => fails s line "kill" ("Illegal number: " ++ process)
    | some _ =>
      if process != processNumber then
        ((s.complainAs line (some "kill") "No such process\n").withCode 1, .next)
      else match if signal == 9 then none else s.traps.lookup signal with
        | some action => ({ s with pending := s.pending ++ [action], last := 0 }, .next)
        | none => if isHarmless signal then (s.withCode 0, .next) else (s, .killed signal)

/-- The signal that `trap` is given. -/
def trapSignal? (s : String) : Option Nat := if s == "EXIT" then some 0 else signal? s

/-- Runs `trap`: a script is kept for signals, or what was kept is dropped. -/
def trap (s : State) (line : Nat) (args : List String) : State × Flow :=
  match args with
  | [] => (s.withCode 0, .next)
  | action :: names =>
    let isReset := action == "-" || names.isEmpty
    let names := if names.isEmpty then [action] else names
    match names.find? fun n => (trapSignal? n).isNone with
    | some bad =>
      ((s.complainAs line (some "trap") (bad ++ ": bad trap")).withCode 1, .next)
    | none =>
      let numbers := names.filterMap trapSignal?
      let others := s.traps.filter fun t => !numbers.contains t.1
      let added := if isReset then [] else numbers.map (·, action)
      ({ s with traps := added ++ others, last := 0 }, .next)

/-! ### Commands that the shell carries out itself -/

/-- Runs a command that takes a number, if it is given one. -/
def withNumber (s : State) (line : Nat) (command : String) (args : List String) (default : Nat)
    (f : Nat → State × Flow) : State × Flow :=
  match args with
  | [] => f default
  | a :: _ =>
    match number? a with
    | some n => f n
    | none => ends s line command ("Illegal number: " ++ a)

/-- Runs a command that takes a number of loops, if it is given one. -/
def withLoops (s : State) (line : Nat) (command : String) (args : List String)
    (f : Nat → State × Flow) : State × Flow :=
  withNumber s line command args 1 fun n =>
    if n == 0 then ends s line command ("Illegal number: " ++ args.headD "0")
    else if s.loops == 0 then (s.withCode 0, .next)
    else f (min n s.loops)

/-- Runs `set`. -/
def setOptions (s : State) : List String → State
  | [] => s
  | "--" :: args => { s with args }
  | a :: rest =>
    match a.toList with
    | '-' :: letters =>
      setOptions { s with flags := s.flags ++ letters.filter (!s.flags.contains ·) } rest
    | '+' :: letters =>
      setOptions { s with flags := s.flags.filter (!letters.contains ·) } rest
    | _ => { s with args := a :: rest }

/-- The name in a word that may set a variable, and the value. -/
def splitAssignment (w : String) : String × Option String :=
  let name := w.toList.takeWhile (· != '=')
  (String.ofList name,
    if name.length == w.length then none
    else some (String.ofList (w.toList.drop (name.length + 1))))

/-- Sets the variables of words with an equals sign. -/
def assignWords (s : State) (words : List String) : State :=
  words.foldl (fun s w =>
    match splitAssignment w with
    | (name, some value) => s.setVar name value
    | (_, none) => s) s

/-- Runs `local`: the values of variables come back behind the function. -/
def makeLocal (s : State) (line : Nat) (words : List String) : State × Flow :=
  match s.locals? with
  | none => ends s line "local" "not in a function"
  | some saved =>
    let names := words.map fun w => (splitAssignment w).1
    let kept := names.map fun n => (n, s.var? n)
    (assignWords { s with locals? := some (saved ++ kept), last := 0 } words, .next)

/-- What follows a word in a line, without the separators behind it. -/
def afterWord (separators : List Char) (t : List Char) : List Char :=
  let isGap (c : Char) : Bool := isBlank c && separators.contains c
  match t.dropWhile isGap with
  | c :: rest => if separators.contains c then rest.dropWhile isGap else c :: rest
  | [] => []

/-- Gives words to variables; the last one gets all that is left. -/
def assignInOrder (s : State) : List String → List Char → State
  | [], _ => s
  | [name], t =>
    let isGap (c : Char) : Bool := isBlank c && s.separators.contains c
    s.setVar name (String.ofList (t.reverse.dropWhile isGap).reverse)
  | name :: rest, t =>
    let word := t.takeWhile (!s.separators.contains ·)
    assignInOrder (s.setVar name (String.ofList word)) rest
      (afterWord s.separators (t.drop word.length))

/-- A line in which backslashes only protect what follows them. -/
def unprotect : List Char → List Char
  | '\\' :: c :: rest => c :: unprotect rest
  | c :: rest => c :: unprotect rest
  | [] => []

/-- Runs `read`: the first line of the input goes to variables. -/
def readLineInto (s : State) (args : List String) : State :=
  let names := args.filter (·.toList.head? != some '-')
  let line := s.input.takeWhile (· != 0x0A)
  let rest := s.input.drop line.length
  let t := Utf8.decode line
  let t := if args.contains "-r" then t else unprotect t
  let isGap (c : Char) : Bool := isBlank c && s.separators.contains c
  let s := assignInOrder { s with input := rest.drop 1 } names (t.dropWhile isGap)
  s.withCode (if rest.isEmpty then 1 else 0)

/-- The result of a tool in a script. -/
def report (s : State) (r : Filter.Result) : State :=
  ((s.print 1 r.out).print 2 r.err).withCode r.code

/-- Removes the entry at a location. -/
def removeAt (node : Node) : List String → Node
  | [] => node
  | [name] =>
    match node with
    | .dir shared entries => .dir shared (entries.filter (·.1 != name))
    | .file bytes => .file bytes
  | name :: names =>
    match node.child? name with
    | some c => node.put name (removeAt c names)
    | none => node

/-- Runs `rm`, `mkdir` and `touch`, which change the disk. -/
def change (s : State) (tool : String) (args : List String) : State :=
  let (opts, files) := Filter.options args
  let has (c : Char) : Bool := opts.flatten.contains c
  let complain (s : State) (what : String) : State :=
    (s.print 2 (Filter.bytes (tool ++ ": " ++ what ++ "\n"))).withCode 1
  files.foldl (fun s f =>
    match tool with
    | "rm" =>
      match s.disk.resolve ⟨f⟩ with
      | .ok (location, some node) =>
        if node.isDir && !(has 'r' || has 'R') then
          complain s ("cannot remove '" ++ f ++ "': Is a directory")
        else { s with disk := { s.disk with root := removeAt s.disk.root location } }
      | .ok (_, none) => if has 'f' then s
        else complain s ("cannot remove '" ++ f ++ "': No such file or directory")
      | .error e => if has 'f' then s
        else complain s ("cannot remove '" ++ f ++ "': " ++ e.reason)
    | "mkdir" =>
      let (made, disk) : Except DiskError Unit × Disk :=
        if has 'p' then s.disk.createDirs ⟨f⟩
        else match s.disk.createDir ⟨f⟩ with
          | .ok disk => (.ok (), disk)
          | .error e => (.error e, s.disk)
      match made with
      | .ok () => { s with disk }
      | .error e =>
        complain { s with disk } ("cannot create directory '" ++ f ++ "': " ++ e.reason)
    | _ =>
      match s.disk.createFile ⟨f⟩ with
      | .ok (_, disk) => { s with disk }
      | .error .present => s
      | .error e => complain s ("cannot touch '" ++ f ++ "': " ++ e.reason))
    (s.withCode 0)

/-- The place that `cp` and `mv` write to: in a directory, a file keeps its name. -/
def placeIn (disk : Disk) (source target : String) : String :=
  if disk.isDir ⟨target⟩ then target ++ "/" ++ Filter.baseOf source "" else target

/-- Runs `cp` and `mv` on files. -/
def copy (s : State) (tool : String) (args : List String) : State :=
  let complain (s : State) (what : String) : State :=
    (s.print 2 (Filter.bytes (tool ++ ": " ++ what ++ "\n"))).withCode 1
  match (Filter.options args).2.reverse with
  | target :: sources =>
    sources.reverse.foldl (fun s f =>
      match s.disk.resolve ⟨f⟩ with
      | .ok (location, some (.file bytes)) =>
        let disk := s.disk.write ⟨placeIn s.disk f target⟩ bytes
        let root := if tool == "mv" then removeAt disk.root location else disk.root
        { s with disk := { disk with root } }
      | .ok (_, some (.dir _ _)) =>
        complain s ("-r not specified; omitting directory '" ++ f ++ "'")
      | _ => complain s ("cannot stat '" ++ f ++ "': No such file or directory"))
      (s.withCode 0)
  | [] => complain s ("missing file operand\nTry '" ++ tool ++ " --help' for more information.")

/-- Runs `cd`. -/
def changeDir (s : State) (line : Nat) (args : List String) : State :=
  let dir := args.headD ""
  match s.disk.resolve ⟨dir⟩ with
  | .ok (location, some (.dir _ _)) => { s with disk := { s.disk with cwd := location }, last := 0 }
  | _ =>
    if dir.isEmpty then s.withCode 0
    else (s.complainAs line (some "cd") ("can't cd to " ++ dir)).withCode 2

/-- Prints arguments by a format. -/
def printBy (s : State) (line : Nat) (format : String) (args : List String) : State :=
  let p := Printed.printf (args.length + 1) args format.toList
  (p.errors.foldl (fun s e => s.complainAs line (some "printf") e) (s.print 1 p.out)).withCode
    (if p.isBroken then 2 else if p.errors.isEmpty then 0 else 1)

/-- Runs `printf`, which takes no options. -/
def printf (s : State) (line : Nat) (args : List String) : State :=
  let refuse (what : String) : State := (s.complainAs line (some "printf") what).withCode 2
  match if args.head? == some "--" then args.drop 1 else args with
  | [] => refuse "usage: printf format [arg ...]"
  | format :: rest =>
    match format.toList with
    | '-' :: c :: _ =>
      if args.head? == some "--" then printBy s line format rest
      else refuse ("Illegal option -" ++ String.ofList [c])
    | _ => printBy s line format rest

/-- Runs `test`, whose name may also be a bracket. -/
def test (s : State) (line : Nat) (name : String) (args : List String) : State :=
  if name == "[" && args.getLast? != some "]" then
    (s.complainAs line (some "[") "missing ]").withCode 2
  else match Condition.eval s.disk (if name == "[" then args.dropLast else args) with
    | .ok b => s.withCode (if b then 0 else 1)
    | .error e => (s.complainAs line (some name) e).withCode 2

/-- Runs a tool that is no part of the shell, if it is one of those at hand. -/
def external? (disk : Disk) (input : List UInt8) (name : String) (args : List String) :
    Option Filter.Result :=
  match name with
  | "true" => some {}
  | "false" => some { code := 1 }
  | "echo" => some { out := Printed.echoTool false true args }
  | "printf" =>
    match args with
    | [] => some (Filter.complaining
        "printf: missing operand\nTry 'printf --help' for more information.\n" 1)
    | format :: args =>
      let p := Printed.printf (args.length + 1) args format.toList
      let err := Filter.bytes (String.join (p.errors.map fun e => "printf: " ++ e ++ "\n"))
      some ⟨p.out, err, if p.errors.isEmpty then 0 else 1⟩
  | name => (Filter.byName.lookup name).map fun tool => tool disk input args

/-- A tool takes its input. -/
def takesInput (name : String) (args : List String) : Bool :=
  let files := (Filter.options args).2
  let ignoring := ["basename", "dirname", "echo", "false", "ls", "printf", "seq", "sleep", "true"]
  !(ignoring.contains name) &&
    (files.isEmpty || args.contains "-" || name == "tr" ||
      files.length == 1 && (name == "grep" || name == "sed"))

/-- Runs a tool in a script, if it is one of those at hand. -/
def runTool? (s : State) (name : String) (args : List String) : Option State :=
  match name with
  | "rm" => some (change s name args)
  | "mkdir" => some (change s name args)
  | "touch" => some (change s name args)
  | "cp" => some (copy s name args)
  | "mv" => some (copy s name args)
  | "tee" =>
    let disk := args.foldl (fun d f => d.write ⟨f⟩ s.input) s.disk
    some { s.print 1 s.input with disk, input := [], last := 0 }
  | name =>
    (external? s.disk s.input name args).map fun r =>
      report (if takesInput name args then { s with input := [] } else s) r

/-- Directories in which tools are found. -/
def toolDirs : List String := ["/bin/", "/usr/bin/"]

/-- The name of a tool without the directory it is found in. -/
def toolName (command : String) : String :=
  match toolDirs.find? fun d => d.toList.isPrefixOf command.toList with
  | some d => String.ofList (command.toList.drop d.length)
  | none => command

/-- The names of commands that the shell carries out itself. -/
def builtinNames : List String :=
  [".", ":", "[", "alias", "bg", "break", "cd", "command", "continue", "echo", "eval", "exec",
    "exit", "export", "false", "fg", "getopts", "hash", "jobs", "kill", "local", "printf", "pwd",
    "read", "readonly", "return", "set", "shift", "test", "times", "trap", "true", "type",
    "ulimit", "umask", "unalias", "unset", "wait"]

/-- The names of tools that change the disk. -/
def changers : List String := ["cp", "mkdir", "mv", "rm", "tee", "touch"]

/-- The name is that of a tool. -/
def isTool (name : String) : Bool :=
  name == "sh" || changers.contains name || (Filter.byName.lookup name).isSome

/-- Prints where a command is found; fails if it is not. -/
def locate (s : State) (name : String) : State :=
  let found (text : String) : State := (s.print 1 (Filter.bytes (text ++ "\n"))).withCode 0
  if (s.functions.lookup name).isSome || builtinNames.contains name then found name
  else if isTool name then found ("/usr/bin/" ++ name)
  else s.withCode 127

/-- Runs `type`: says what commands are. -/
def describe (s : State) (names : List String) : State :=
  names.foldl (fun s name =>
    let say (s : State) (what : String) : State := s.print 1 (Filter.bytes (name ++ what ++ "\n"))
    if (s.functions.lookup name).isSome then say s " is a shell function"
    else if builtinNames.contains name then say s " is a shell builtin"
    else if isTool name then say s (" is /usr/bin/" ++ name)
    else (say s ": not found").withCode 127) (s.withCode 0)

/-- A command that the shell carries out itself; `none` for any other. -/
def builtin? (s : State) (line : Nat) (name : String) (args : List String) :
    Option (State × Flow) :=
  let done (s : State) : Option (State × Flow) := some (s, .next)
  match name with
  | ":" => done (s.withCode 0)
  | "true" => done (s.withCode 0)
  | "false" => done (s.withCode 1)
  | "echo" => done ((s.print 1 (Printed.echo args)).withCode 0)
  | "printf" => done (printf s line args)
  | "exit" => some (withNumber s line name args s.last fun n => (s.withCode (n % 256), .exits))
  | "return" => some (withNumber s line name args s.last fun n => (s.withCode (n % 256), .returns))
  | "break" => some (withLoops s line name args fun n => (s.withCode 0, .breaks n))
  | "continue" => some (withLoops s line name args fun n => (s.withCode 0, .continues n))
  | "kill" => some (kill s line args)
  | "trap" => some (trap s line args)
  | "set" => done ((setOptions s args).withCode 0)
  | "shift" => some (withNumber s line name args 1 fun n =>
      if s.args.length < n then ends s line name "can't shift that many"
      else ({ s with args := s.args.drop n, last := 0 }, .next))
  | "export" =>
    let names := args.map fun w => (splitAssignment w).1
    done ((assignWords { s with exported := names ++ s.exported } args).withCode 0)
  | "readonly" =>
    let names := args.map fun w => (splitAssignment w).1
    done { assignWords s args with constants := names ++ s.constants, last := 0 }
  | "local" => some (makeLocal s line args)
  | "unset" => done { s with vars := s.vars.filter (!args.contains ·.1), last := 0 }
  | "read" => done (readLineInto s args)
  | "cd" => done (changeDir s line args)
  | "pwd" =>
    done ((s.print 1 (Filter.bytes ("/" ++ "/".intercalate s.disk.cwd ++ "\n"))).withCode 0)
  | "test" => done (test s line name args)
  | "[" => done (test s line name args)
  | "type" => done (describe s args)
  | "umask" => done ((s.print 1 (if args.isEmpty then Filter.bytes "0022\n" else [])).withCode 0)
  | "ulimit" =>
    done ((s.print 1 (if args.isEmpty then Filter.bytes "unlimited\n" else [])).withCode 0)
  | "alias" => done (s.withCode 0)
  | "hash" => done (s.withCode 0)
  | "jobs" => done (s.withCode 0)
  | "wait" => done (s.withCode 0)
  | _ => none

end StyleAudit.Shell
