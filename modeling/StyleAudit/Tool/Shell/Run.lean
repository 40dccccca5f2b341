import StyleAudit.Tool.Shell.Arithmetic
import StyleAudit.Tool.Shell.ScriptReader
import StyleAudit.Tool.Shell.Builtin
import StyleAudit.Tool.Shell.Redirect

/-!
# Running scripts

Words are expanded, commands are run, and a flow tells how the script goes on.  Running is bounded
by a number of steps.
-/

namespace StyleAudit.Shell

open Script

/-- The script of a state ends with this code. -/
def statusOf (s : State) : Flow → ExitStatus
  | .killed n => .signal n
  | _ => .code s.last

/-- The commands behind which variables keep the values that they were given in front of them. -/
def lasting : List String :=
  [".", ":", "break", "continue", "eval", "exec", "exit", "export", "readonly", "return", "set",
    "shift", "times", "trap", "unset"]

/-- How a script goes on that cannot go on. -/
def ending (s : State) : Flow :=
  match s.killer? with
  | some n => .killed n
  | none => .exits

/-- A word without its uses of all arguments between quotes, and without these quotes. -/
def withoutAll : Script.Word → Script.Word
  | .text [] true :: .parameter ['@'] .value [] true :: .text [] true :: rest => withoutAll rest
  | part :: rest => part :: withoutAll rest
  | [] => []

mutual

/-- The glyphs of a part of a word.  An error ends the script. -/
def expandPart (fuel : Nat) (line : Nat) (s : State) (part : Part) :
    Except State (List Glyph × State) :=
  match fuel with
  | 0 => .ok ([], s)
  | fuel + 1 =>
    match part with
    | .text t isQuoted => .ok (glyphs isQuoted false t, s)
    | .output script isQuoted =>
      let stream := s.fresh
      let inner := { s with fresh := stream + 1 }.redirectTo 1 (.stream stream)
      let (inner, flow) := runText fuel (countBreaks script) script inner
      let text := dropFinalBreaks (Utf8.decode (inner.caught stream))
      let s := s.leave { inner with printed := inner.printed.filter (·.1 != stream) }
      match flow with
      | .killed n => .error { s with killer? := some n }
      | _ => .ok (glyphs isQuoted true text, s)
    | .broken => .error ((s.complain line "Bad substitution").withCode 2)
    | .number expression isQuoted =>
      match expandText fuel line s (allParts .body expression) with
      | .error s => .error s
      | .ok (text, s) =>
        match Arithmetic.eval s.var? text.toList with
        | .ok (n, assigned) =>
          let s := assigned.foldr (fun a s => s.setVar a.1 (toString a.2)) s
          .ok (glyphs isQuoted true (toString n).toList, s)
        | .error e => .error ((s.complain line (e.message text)).withCode 2)
    | .parameter name form word isQuoted =>
      let value? := s.parameter? name
      let missing (orEmpty : Bool) : Bool := match value? with
        | none => true
        | some v => orEmpty && v.isEmpty
      let value := (value?.getD "").toList
      let other : Script.Word := allParts (if isQuoted then .inner else .bare) word
      match form with
      | .value =>
        if name == ['@'] && isQuoted then
          let words := s.args.map fun a => glyphs true false a.toList
          .ok ((words.intersperse [.cut]).flatten, s)
        else if value?.isNone && s.has 'u' && name != ['@'] && name != ['*'] then
          .error ((s.complain line (String.ofList name ++ ": parameter not set")).withCode 2)
        else .ok (glyphs isQuoted true value, s)
      | .size => .ok (glyphs isQuoted true (toString value.length).toList, s)
      | .orElse orEmpty =>
        if missing orEmpty then expandParts fuel line s other
        else .ok (glyphs isQuoted true value, s)
      | .orAssign orEmpty =>
        if missing orEmpty then
          match expandText fuel line s other with
          | .error s => .error s
          | .ok (text, s) =>
            .ok (glyphs isQuoted true text.toList, s.setVar (String.ofList name) text)
        else .ok (glyphs isQuoted true value, s)
      | .ifSet orEmpty =>
        if missing orEmpty then .ok (glyphs isQuoted true [], s)
        else expandParts fuel line s other
      | .orFail orEmpty =>
        if missing orEmpty then
          match expandText fuel line s other with
          | .error s => .error s
          | .ok (text, s) =>
            let why := if !text.isEmpty then text
              else if orEmpty then "parameter not set or null" else "parameter not set"
            .error ((s.complain line (String.ofList name ++ ": " ++ why)).withCode 2)
        else .ok (glyphs isQuoted true value, s)
      | .dropEnd longest =>
        match expandParts fuel line s (allParts .bare word) with
        | .error s => .error s
        | .ok (gs, s) =>
          let p := patternOf ((fields [] none false (gs.filterMap uncut)).flatten)
          .ok (glyphs isQuoted true (Wildcard.dropEnd p longest value), s)
      | .dropStart longest =>
        match expandParts fuel line s (allParts .bare word) with
        | .error s => .error s
        | .ok (gs, s) =>
          let p := patternOf ((fields [] none false (gs.filterMap uncut)).flatten)
          .ok (glyphs isQuoted true (Wildcard.dropStart p longest value), s)
where
  /-- A glyph at which no word is cut. -/
  uncut : Glyph → Option Glyph
    | .char c isLiteral _ => some (.char c isLiteral false)
    | g => some g

/-- The glyphs of a word. -/
def expandParts (fuel : Nat) (line : Nat) (s : State) (w : Script.Word) :
    Except State (List Glyph × State) :=
  match fuel with
  | 0 => .ok ([], s)
  | fuel + 1 =>
    match w with
    | [] => .ok ([], s)
    | part :: rest =>
      match expandPart fuel line s part with
      | .error s => .error s
      | .ok (here, s) =>
        match expandParts fuel line s rest with
        | .error s => .error s
        | .ok (more, s) => .ok (here ++ more, s)

/-- The text of a word that is not cut. -/
def expandText (fuel : Nat) (line : Nat) (s : State) (w : Script.Word) :
    Except State (String × State) :=
  match fuel with
  | 0 => .ok ("", s)
  | fuel + 1 =>
    match expandParts fuel line s w with
    | .error s => .error s
    | .ok (gs, s) =>
      let text := gs.filterMap fun g => match g with
        | .char c _ _ => some c
        | .cut => some ' '
        | .quotes => none
      .ok (String.ofList text, s)

/-- The words that words stand for. -/
def expandWords (fuel : Nat) (line : Nat) (s : State) (ws : List Script.Word) :
    Except State (List String × State) :=
  match fuel with
  | 0 => .ok ([], s)
  | fuel + 1 =>
    match ws with
    | [] => .ok ([], s)
    | w :: rest =>
      match expandParts fuel line s (if s.args.isEmpty then withoutAll w else w) with
      | .error s => .error s
      | .ok (gs, s) =>
        let words := fields s.separators none false gs
        let here := if s.has 'f' then words.map fun w => String.ofList (w.map (·.1))
          else words.flatMap (spread s.disk)
        match expandWords fuel line s rest with
        | .error s => .error s
        | .ok (more, s) => .ok (here ++ more, s)

/-- Sets variables. -/
def runAssignments (fuel : Nat) (line : Nat) (s : State) (as : List (String × Script.Word)) :
    Except State State :=
  match fuel with
  | 0 => .ok s
  | fuel + 1 =>
    match as with
    | [] => .ok s
    | (name, w) :: rest =>
      match expandText fuel line s w with
      | .error s => .error s
      | .ok (value, s) =>
        if s.constants.contains name then
          .error ((s.complain line (name ++ ": is read only")).withCode 2)
        else runAssignments fuel line (s.setVar name value) rest

/-- Carries out redirections.  The error is the state with a complaint, and how the script goes
on. -/
def runRedirects (fuel : Nat) (line : Nat) (s : State) (rs : List Redirect) :
    Except (State × Flow) State :=
  match fuel with
  | 0 => .ok s
  | fuel + 1 =>
    match rs with
    | [] => .ok s
    | (stream, r) :: rest =>
      let word : Script.Word := match r with
        | .read w => w
        | .here w => w
        | .write w _ => w
        | .like w => w
      match expandText fuel line s word with
      | .error s => .error (s, ending s)
      | .ok (text, s) =>
        match redirectOne s stream r text with
        | .error (.refused what) => .error ((s.complain line what).withCode 2, .next)
        | .error (.malformed what) => .error ((s.complain line what).withCode 2, .exits)
        | .ok s => runRedirects fuel line s rest

/-- Runs a command that has been expanded. -/
def runCommand (fuel : Nat) (line : Nat) (s : State) (ws : List String) : State × Flow :=
  match fuel with
  | 0 => (s, .exits)
  | fuel + 1 =>
    match ws with
    | [] => (s, .next)
    | "eval" :: args =>
      runWithin fuel "eval" (" ".intercalate args).toList (s.withCode 0)
    | "exec" :: args =>
      if args.isEmpty then (s.withCode 0, .next)
      else match runCommand fuel line { s with within := some "exec" } args with
        | (s, .killed n) => (s, .killed n)
        | (s, _) => (s, .exits)
    | "command" :: "-v" :: name :: _ => (locate s name, .next)
    | "command" :: args => runCommand fuel line s (args.filter (· != "-p"))
    | ["."] => (s.withCode 0, .next)
    | "." :: file :: _ =>
      if !file.toList.contains '/' then ends s line "." (file ++ ": not found")
      else match s.disk.read ⟨file⟩ with
        | .ok bytes =>
          match runWithin fuel file (Utf8.decode bytes) s with
          | (s, .returns) => (s, .next)
          | r => r
        | .error .isDirectory => (s.withCode 0, .next)
        | .error _ => ends s line "." ("cannot open " ++ file ++ ": No such file")
    | name :: args =>
      match s.functions.lookup name, builtin? s line name args with
      | some body, _ =>
        let (inner, flow) := run fuel body { s with args, loops := 0, locals? := some [] }
        let s := { inner.restore (inner.locals?.getD []) with
          args := s.args
          loops := s.loops
          locals? := s.locals? }
        (s, match flow with | .returns => .next | flow => flow)
      | none, some r => r
      | none, none =>
        let tool := toolName name
        if tool == "sh" then
          let (output, disk) := runSh fuel s.disk s.environment s.input args
          let s := (({ s with disk }.print 1 output.stdout).print 2 output.stderr)
          match output.status with
          | .code n => (s.withCode n, .next)
          | .signal n =>
            if s.within == some "exec" then (s, .killed n)
            else ((s.print 2 (Filter.bytes (obituary n))).withCode (128 + n), .next)
        else match runTool? s tool args with
          | some s => (s, .next)
          | none =>
            match name.toList.contains '/', s.disk.resolve ⟨name⟩ with
            | true, .ok (_, some _) =>
              ((s.complain line (name ++ ": Permission denied")).withCode 126, .next)
            | _, _ => ((s.complain line (name ++ ": not found")).withCode 127, .next)

/-- Runs a text in the name of a command. -/
def runWithin (fuel : Nat) (command : String) (t : List Char) (s : State) : State × Flow :=
  match fuel with
  | 0 => (s, .exits)
  | fuel + 1 =>
    let (after, flow) := runText fuel (countBreaks t) t { s with within := some command }
    ({ after with within := s.within }, flow)

/-- Runs a simple command.  The values that it gives to variables are gone behind it, unless it
has no words or is one of those that change the shell itself. -/
def runSimple (fuel : Nat) (c : Simple) (s : State) : State × Flow :=
  match fuel with
  | 0 => (s, .exits)
  | fuel + 1 =>
    match expandWords fuel c.line s c.words with
    | .error s => (s, ending s)
    | .ok (ws, s) =>
      match runRedirects fuel c.line s c.redirects with
      | .error (failed, flow) => (s.leave failed, flow)
      | .ok inner =>
        let s := if ws.isEmpty then s.withCode (if c.words.isEmpty then 0 else s.last) else s
        match runAssignments fuel c.line { inner with last := s.last } c.assignments with
        | .error failed => (s.leave failed, ending failed)
        | .ok inner =>
          let names := c.assignments.map (·.1)
          let shown := names.map (fun n => n ++ "=" ++ (inner.var? n).getD "") ++ ws
          let inner := if s.has 'x' && !shown.isEmpty then
              { (s.leave inner).print 2 (Filter.bytes ("+ " ++ " ".intercalate shown ++ "\n")) with
                vars := inner.vars
                targets := inner.targets }
            else inner
          let isTemporary := !ws.isEmpty && !lasting.contains (ws.headD "")
          let exported := if isTemporary then names ++ s.exported else s.exported
          let (after, flow) := runCommand fuel c.line { inner with exported } ws
          let after := if isTemporary then
              { after.restore (names.map fun n => (n, s.var? n)) with
                exported := after.exported.drop names.length }
            else after
          let isOpen := ws == ["exec"] || (ws.isEmpty && c.redirects.isEmpty)
          if isOpen then (after, flow)
          else
            let restored := { after with targets := s.targets, isTested := s.isTested }
            let restored := if c.redirects.any fun r => r.1 == 0 then
                { restored with input := s.input } else restored
            (restored, flow)

/-- Runs a script. -/
def run (fuel : Nat) (script : Script) (s : State) : State × Flow :=
  match fuel with
  | 0 => (s, .exits)
  | fuel + 1 =>
    let tested (t : Script) (s : State) : State × Flow :=
      let (after, flow) := run fuel t { s with isTested := true }
      ({ after with isTested := s.isTested }, flow)
    match script with
    | .nothing => (s, .next)
    | .simple c =>
      match runSimple fuel c s with
      | (s, .next) =>
        if s.has 'e' && !s.isTested && s.last != 0 then (s, .exits)
        else runPending fuel s.pending { s with pending := [] }
      | r => r
    | .seq a b =>
      match run fuel a s with
      | (s, .next) => run fuel b s
      | r => r
    | .both a b =>
      match tested a s with
      | (s, .next) => if s.last == 0 then run fuel b s else (s, .next)
      | r => r
    | .either a b =>
      match tested a s with
      | (s, .next) => if s.last == 0 then (s, .next) else run fuel b s
      | r => r
    | .invert a =>
      match tested a s with
      | (s, .next) => (s.withCode (if s.last == 0 then 1 else 0), .next)
      | r => r
    | .pipe a b =>
      let stream := s.fresh
      let inner := { s with fresh := stream + 1 }.redirectTo 1 (.stream stream)
      let (first, flow) := run fuel a inner
      match flow with
      | .killed n => (s.leave first, .killed n)
      | _ =>
        let output := first.caught stream
        let s := s.leave { first with printed := first.printed.filter (·.1 != stream) }
        let (second, flow) := run fuel b { s with input := output }
        let after := { s.leave second with input := s.input }
        match flow with
        | .killed n => (after, .killed n)
        | _ => (after, .next)
    | .subshell a =>
      let (inner, flow) := run fuel a s
      let after := s.leave inner
      match flow with
      | .killed n => (after, .killed n)
      | _ =>
        if s.has 'e' && !s.isTested && after.last != 0 then (after, .exits) else (after, .next)
    | .redirected line a rs =>
      match runRedirects fuel line s rs with
      | .error (failed, flow) => (s.leave failed, flow)
      | .ok inner =>
        let (after, flow) := run fuel a inner
        let restored := { after with targets := s.targets }
        (if rs.any fun r => r.1 == 0 then { restored with input := s.input } else restored, flow)
    | .choose test yes no =>
      match tested test s with
      | (s, .next) =>
        if s.last == 0 then run fuel yes s
        else run fuel no (s.withCode 0)
      | r => r
    | .loop isUntil test body =>
      match tested test s with
      | (s', .next) =>
        if (s'.last == 0) == isUntil then (s'.withCode 0, .next)
        else match runBody fuel body s' with
          | (s', .next) => again fuel script s'
          | (s', .continues n) =>
            if n ≤ 1 then again fuel script s' else (s', .continues (n - 1))
          | (s', .breaks n) => (s'.withCode 0, if n ≤ 1 then .next else .breaks (n - 1))
          | r => r
      | r => r
    | .forEach name items body =>
      match match items with
        | some ws => expandWords fuel 1 s ws
        | none => .ok (s.args, s) with
      | .error s => (s, ending s)
      | .ok (values, s) => runEach fuel name body values (s.withCode 0)
    | .cases w branches =>
      match expandText fuel 1 s w with
      | .error s => (s, ending s)
      | .ok (text, s) => runBranches fuel text branches (s.withCode 0)
    | .branch _ _ _ => (s, .next)
    | .define name body =>
      ({ s with functions := (name, body) :: s.functions.filter (·.1 != name), last := 0 }, .next)

/-- Runs the body of a loop. -/
def runBody (fuel : Nat) (body : Script) (s : State) : State × Flow :=
  match fuel with
  | 0 => (s, .exits)
  | fuel + 1 =>
    let (after, flow) := run fuel body { s with loops := s.loops + 1 }
    ({ after with loops := s.loops }, flow)

/-- Runs the scripts that signals have called for; the code stays as it was. -/
def runPending (fuel : Nat) (actions : List String) (s : State) : State × Flow :=
  match fuel with
  | 0 => (s, .exits)
  | fuel + 1 =>
    match actions with
    | [] => (s, .next)
    | action :: rest =>
      match runText fuel (countBreaks action.toList) action.toList s with
      | (after, .next) => runPending fuel rest (after.withCode s.last)
      | r => r

/-- Another round of a loop; a loop without rounds leaves the code of its last one. -/
def again (fuel : Nat) (script : Script) (s : State) : State × Flow :=
  match fuel with
  | 0 => (s, .exits)
  | fuel + 1 =>
    let code := s.last
    match script with
    | .loop isUntil test body =>
      let (after, flow) := run fuel test { s with isTested := true }
      let after := { after with isTested := s.isTested }
      match flow with
      | .next =>
        if (after.last == 0) == isUntil then (after.withCode code, .next)
        else match runBody fuel body after with
          | (s, .next) => again fuel script s
          | (s, .continues n) =>
            if n ≤ 1 then again fuel script s else (s, .continues (n - 1))
          | (s, .breaks n) => (s.withCode 0, if n ≤ 1 then .next else .breaks (n - 1))
          | r => r
      | flow => (after, flow)
    | _ => (s, .next)

/-- Runs a script once for each value of a variable. -/
def runEach (fuel : Nat) (name : String) (body : Script) (values : List String) (s : State) :
    State × Flow :=
  match fuel with
  | 0 => (s, .exits)
  | fuel + 1 =>
    match values with
    | [] => (s, .next)
    | v :: rest =>
      match runBody fuel body (s.setVar name v) with
      | (s, .next) => runEach fuel name body rest s
      | (s, .continues n) =>
        if n ≤ 1 then runEach fuel name body rest s else (s, .continues (n - 1))
      | (s, .breaks n) => (s, if n ≤ 1 then .next else .breaks (n - 1))
      | r => r

/-- Runs the first branch with a pattern that matches. -/
def runBranches (fuel : Nat) (text : String) (branches : Script) (s : State) : State × Flow :=
  match fuel with
  | 0 => (s, .exits)
  | fuel + 1 =>
    match branches with
    | .branch patterns body rest =>
      match findPattern fuel text patterns s with
      | .error s => (s, ending s)
      | .ok (true, s) => run fuel body s
      | .ok (false, s) => runBranches fuel text rest s
    | _ => (s, .next)

/-- One of the patterns matches a text. -/
def findPattern (fuel : Nat) (text : String) (patterns : List Script.Word) (s : State) :
    Except State (Bool × State) :=
  match fuel with
  | 0 => .ok (false, s)
  | fuel + 1 =>
    match patterns with
    | [] => .ok (false, s)
    | p :: rest =>
      match expandParts fuel 1 s p with
      | .error s => .error s
      | .ok (gs, s) =>
        let chars := gs.filterMap fun g => match g with
          | .char c isLiteral _ => some (c, isLiteral)
          | _ => none
        if Wildcard.accepts (patternOf chars) text.toList then .ok (true, s)
        else findPattern fuel text rest s

/-- Runs a text line by line.  An error of syntax ends it. -/
def runText (fuel : Nat) (breaks : Nat) (t : List Char) (s : State) : State × Flow :=
  match fuel with
  | 0 => (s, .exits)
  | fuel + 1 =>
    if t.isEmpty then (s, .next)
    else match readLine breaks t with
      | .error e =>
        ((s.complain (breaks - countBreaks e.rest + 1) ("Syntax error: " ++ e.message)).withCode 2,
          .exits)
      | .ok (script, rest) =>
        match run fuel script s with
        | (s, .next) => runText fuel breaks rest s
        | r => r

/-- Runs `sh`: a script given with `-c`, whose next argument is the name it is called by, or the
script in a file, or the input. -/
def runSh (fuel : Nat) (disk : Disk) (environment : List (String × String)) (input : List UInt8)
    (args : List String) : ToolOutput × Disk :=
  match fuel with
  | 0 => (⟨.code 2, [], []⟩, disk)
  | fuel + 1 =>
    let isOption (a : String) : Bool := match a.toList with
      | '-' :: c :: _ => c != '-'
      | _ => false
    let flags := args.takeWhile isOption
    let letters := flags.flatMap (·.toList.drop 1)
    let rest := args.drop flags.length
    let rest := if rest.head? == some "--" then rest.drop 1 else rest
    let start (zero : String) (args : List String) (text : List Char) : ToolOutput × Disk :=
      let s : State :=
        { disk
          input
          zero
          args
          vars := environment
          exported := environment.map (·.1)
          flags := letters.filter (· != 'c') }
      let (after, flow) := match runText fuel (countBreaks text) text s with
        | (after, .killed n) => (after, .killed n)
        | (after, flow) =>
          match runPending fuel (after.traps.lookup 0).toList { after with traps := [] } with
          | (after, .next) => (after, flow)
          | r => r
      (⟨statusOf after flow, after.caught 1, after.caught 2⟩, after.disk)
    let refused (what : String) : ToolOutput × Disk :=
      (⟨.code 2, [], Filter.bytes ("sh: 0: " ++ what ++ "\n")⟩, disk)
    match letters.find? fun c => !("abcefhilmnopsuvxCEIV".toList.contains c) with
    | some c => refused ("Illegal option -" ++ String.ofList [c])
    | none =>
      if letters.contains 'c' then
        match rest with
        | [] => refused "-c requires an argument"
        | script :: rest => start (rest.headD "sh") (rest.drop 1) script.toList
      else match rest with
        | [] => start "sh" [] (Utf8.decode input)
        | file :: rest =>
          match disk.read ⟨file⟩ with
          | .ok bytes => start file rest (Utf8.decode bytes)
          | .error e => refused ("cannot open " ++ file ++ ": " ++
              (if e == .missing || e == .notDirectory then "No such file" else e.reason))

end

end StyleAudit.Shell
