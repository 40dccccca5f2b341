import StyleAudit.Text.Numeral
import StyleAudit.Tool.Shell.Script

/-!
# Reading scripts

A script is read command by command: `readLine` reads the commands of one line, which may be
continued by what they open.  Every reader takes a text and returns what it read and the rest, or
an error of syntax.  Reading is bounded by the length of the text.
-/

namespace StyleAudit.Script

/-- An error of syntax: its message, and what was left of the script. -/
structure SyntaxError where
  /-- What is wrong. -/
  message : String
  /-- What had not been read. -/
  rest : List Char

/-- A reader. -/
abbrev Reader (α : Type) := List Char → Except SyntaxError (α × List Char)

/-- The number of line feeds. -/
def countBreaks (t : List Char) : Nat := t.count '\n'

/-! ### Words -/

/-- A character that ends a word outside quotes. -/
def endsWord (c : Char) : Bool :=
  c == ' ' || c == '\t' || c == '\n' || c == ';' || c == '&' || c == '|' || c == '<' ||
    c == '>' || c == '(' || c == ')'

/-- A character of a name. -/
def isNameChar (c : Char) : Bool := c.isAlphanum || c == '_'

/-- A name. -/
def isName (t : List Char) : Bool :=
  t.all isNameChar && (t.head?.any fun c => !c.isDigit)

/-- How text is read: outside quotes, inside double quotes, as the body of a text, in which double
quotes have no meaning, or inside braces inside double quotes, where double quotes are dropped. -/
inductive Mode where
  /-- Outside quotes. -/
  | bare
  /-- Inside double quotes. -/
  | quoted
  /-- As a body. -/
  | body
  /-- Inside braces inside double quotes. -/
  | inner
  deriving DecidableEq

/-- What stands up to a closing character, and what follows it.  Quoted text and pairs of
brackets are passed over. -/
def untilClose (opening closing : Char) (fuel depth : Nat) (seen : List Char) (t : List Char) :
    Option (List Char × List Char) :=
  match fuel with
  | 0 => none
  | fuel + 1 =>
    match t with
    | [] => none
    | '\\' :: c :: rest => untilClose opening closing fuel depth (c :: '\\' :: seen) rest
    | '\'' :: rest =>
      let body := rest.takeWhile (· != '\'')
      untilClose opening closing fuel depth ('\'' :: (body.reverse ++ '\'' :: seen))
        (rest.drop (body.length + 1))
    | c :: rest =>
      if c == closing then
        match depth with
        | 0 => some (seen.reverse, rest)
        | d + 1 => untilClose opening closing fuel d (c :: seen) rest
      else
        untilClose opening closing fuel (if c == opening then depth + 1 else depth) (c :: seen)
          rest

/-- What stands up to the next backquote, without the backslashes before backslashes, dollar
signs and backquotes. -/
def untilBackquote (seen : List Char) : List Char → Option (List Char × List Char)
  | [] => none
  | '`' :: rest => some (seen.reverse, rest)
  | '\\' :: c :: rest =>
    if c == '`' || c == '\\' || c == '$' then untilBackquote (c :: seen) rest
    else untilBackquote (c :: '\\' :: seen) rest
  | c :: rest => untilBackquote (c :: seen) rest

/-- The use of a parameter between braces. -/
def braced (t : List Char) (isQuoted : Bool) : Part :=
  let special (c : Char) : Bool := "@*#?-$!".toList.contains c
  match t with
  | '#' :: c :: rest =>
    if isNameChar c || (special c && rest.isEmpty) then .parameter (c :: rest) .size [] isQuoted
    else .parameter ['#'] .value [] isQuoted
  | _ =>
    let name :=
      match t with
      | c :: _ => if special c then [c] else t.takeWhile isNameChar
      | [] => []
    match t.drop name.length with
    | ':' :: '-' :: word => .parameter name (.orElse true) word isQuoted
    | '-' :: word => .parameter name (.orElse false) word isQuoted
    | ':' :: '=' :: word => .parameter name (.orAssign true) word isQuoted
    | '=' :: word => .parameter name (.orAssign false) word isQuoted
    | ':' :: '+' :: word => .parameter name (.ifSet true) word isQuoted
    | '+' :: word => .parameter name (.ifSet false) word isQuoted
    | ':' :: '?' :: word => .parameter name (.orFail true) word isQuoted
    | '?' :: word => .parameter name (.orFail false) word isQuoted
    | '%' :: '%' :: word => .parameter name (.dropEnd true) word isQuoted
    | '%' :: word => .parameter name (.dropEnd false) word isQuoted
    | '#' :: '#' :: word => .parameter name (.dropStart true) word isQuoted
    | '#' :: word => .parameter name (.dropStart false) word isQuoted
    | rest => if rest.isEmpty && !name.isEmpty then .parameter name .value [] isQuoted else .broken

/-- What a dollar sign starts, given the text behind it. -/
def readDollar (isQuoted : Bool) (t : List Char) : Except SyntaxError (Part × List Char) :=
  let unterminated : SyntaxError := ⟨"end of file unexpected (expecting \")\")", []⟩
  match t with
  | '(' :: '(' :: rest =>
    match untilClose '(' ')' rest.length 1 [] rest with
    | some (expression, rest) =>
      if expression.getLast? == some ')' then .ok (.number expression.dropLast isQuoted, rest)
      else .ok (.output ('(' :: expression) isQuoted, rest)
    | none => .error ⟨"Missing '))'", []⟩
  | '(' :: rest =>
    match untilClose '(' ')' rest.length 0 [] rest with
    | some (script, rest) => .ok (.output script isQuoted, rest)
    | none => .error unterminated
  | '\x7b' :: rest =>
    match untilClose '\x7b' '\x7d' rest.length 0 [] rest with
    | some (inner, rest) => .ok (braced inner isQuoted, rest)
    | none => .error ⟨"Missing '\x7d'", []⟩
  | c :: rest =>
    if c.isDigit || "@*#?-$!".toList.contains c then
      .ok (.parameter [c] .value [] isQuoted, rest)
    else if isNameChar c then
      let name := t.takeWhile isNameChar
      .ok (.parameter name .value [] isQuoted, t.drop name.length)
    else .ok (.text ['$'] isQuoted, t)
  | [] => .ok (.text ['$'] isQuoted, [])

/-- Reads the rest of a word, or of a body.  A character with the property `ends` ends it outside
quotes, and `parts` holds the parts read so far, reversed. -/
def readParts (ends : Char → Bool) (fuel : Nat) (mode : Mode) (parts : List Part)
    (t : List Char) : Except SyntaxError (Word × List Char) :=
  match fuel with
  | 0 => .ok (parts.reverse, t)
  | fuel + 1 =>
    let isQuoted := mode != .bare
    let unterminated : SyntaxError := ⟨"Unterminated quoted string", []⟩
    match t with
    | [] => if mode == .quoted then .error unterminated else .ok (parts.reverse, [])
    | '\\' :: '\n' :: rest => readParts ends fuel mode parts rest
    | '$' :: rest =>
      match readDollar isQuoted rest with
      | .ok (part, rest) => readParts ends fuel mode (part :: parts) rest
      | .error e => .error e
    | '`' :: rest =>
      match untilBackquote [] rest with
      | some (script, rest) => readParts ends fuel mode (.output script isQuoted :: parts) rest
      | none => .error ⟨"EOF in backquote substitution", []⟩
    | '\\' :: c :: rest =>
      let isEscape := ['$', '`', '\\'].contains c || (c == '"' && mode != .body) ||
        (c == '\x7d' && mode == .inner)
      if mode == .bare || isEscape then
        readParts ends fuel mode (.text [c] true :: parts) rest
      else readParts ends fuel mode (.text ['\\', c] true :: parts) rest
    | c :: rest =>
      if c == '"' && mode == .inner then readParts ends fuel mode parts rest
      else if c == '"' && mode != .body then
        readParts ends fuel (if mode == .bare then .quoted else .bare) (.text [] true :: parts) rest
      else if isQuoted then readParts ends fuel mode (.text [c] true :: parts) rest
      else if c == '\'' then
        let body := rest.takeWhile (· != '\'')
        if body.length == rest.length then .error unterminated
        else readParts ends fuel mode (.text body true :: parts) (rest.drop (body.length + 1))
      else if ends c then .ok (parts.reverse, t)
      else readParts ends fuel mode (.text [c] false :: parts) rest

/-- Reads a word. -/
def readWord : Reader Word := fun t => readParts endsWord (t.length + 1) .bare [] t

/-- The parts of a text that is read as a whole, as a body or as a word. -/
def allParts (mode : Mode) (t : List Char) : Word :=
  match readParts (fun _ => false) (t.length + 1) mode [] t with
  | .ok (parts, _) => parts
  | .error _ => [.text t true]

/-- The text of a word that has no quotes and nothing to be replaced. -/
def plain? (w : Word) : Option (List Char) :=
  w.foldr (fun part acc =>
    match part, acc with
    | .text t false, some rest => some (t ++ rest)
    | _, _ => none) (some [])

/-- The text of a word with its quotes removed. -/
def unquoted (w : Word) : List Char :=
  w.flatMap fun part =>
    match part with
    | .text t _ => t
    | _ => []

/-! ### Gaps and tokens -/

/-- Skips spaces, tabs, continued lines and comments. -/
def skipGap (t : List Char) : List Char :=
  match t with
  | ' ' :: rest => skipGap rest
  | '\t' :: rest => skipGap rest
  | '\\' :: '\n' :: rest => skipGap rest
  | '#' :: rest => rest.dropWhile (· != '\n')
  | t => t

/-- Skips gaps and ends of lines. -/
def skipLines (fuel : Nat) (t : List Char) : List Char :=
  match fuel, skipGap t with
  | fuel + 1, '\n' :: rest => skipLines fuel rest
  | _, t => t

/-- Words with a meaning of their own at the start of a command. -/
def reserved : List String :=
  ["!", "\x7b", "\x7d", "case", "do", "done", "elif", "else", "esac", "fi", "for", "if", "in",
    "then", "until", "while"]

/-- Words that end a list of commands. -/
def closers : List String := ["\x7d", "do", "done", "elif", "else", "esac", "fi", "then"]

/-- The word that a text starts with, if it has no quotes and nothing to be replaced. -/
def peekWord (t : List Char) : Option String :=
  match readWord t with
  | .ok (w, _) => if w.isEmpty then none else (plain? w).map String.ofList
  | .error _ => none

/-- The text starts with the word that is given. -/
def startsWith (word : String) (t : List Char) : Bool := peekWord t == some word

/-- A list of commands cannot go on here. -/
def isClosed (t : List Char) : Bool :=
  match t with
  | [] => true
  | ')' :: _ => true
  | ';' :: ';' :: _ => true
  | t => (peekWord t).any closers.contains

/-- The name of the token that a text starts with. -/
def tokenName (t : List Char) : String :=
  match t with
  | [] => "end of file"
  | '\n' :: _ => "newline"
  | '&' :: '&' :: _ => "\"&&\""
  | '|' :: '|' :: _ => "\"||\""
  | ';' :: ';' :: _ => "\";;\""
  | '<' :: _ => "redirection"
  | '>' :: _ => "redirection"
  | c :: _ =>
    if c == ';' || c == '&' || c == '|' || c == '(' || c == ')' then
      "\"" ++ String.ofList [c] ++ "\""
    else match (peekWord t).filter reserved.contains with
      | some w => "\"" ++ w ++ "\""
      | none => "word"

/-- A token that may not stand here. -/
def unexpected (t : List Char) : SyntaxError := ⟨tokenName t ++ " unexpected", t⟩

/-- A token in place of another one. -/
def expecting (what : String) (t : List Char) : SyntaxError :=
  ⟨tokenName t ++ " unexpected (expecting " ++ what ++ ")", t⟩

/-- Reads a reserved word. -/
def expectWord (word : String) (t : List Char) : Except SyntaxError (List Char) :=
  let t := skipLines t.length t
  if startsWith word t then .ok (t.drop word.length)
  else .error (expecting ("\"" ++ word ++ "\"") t)

/-! ### Redirections -/

/-- The lines up to one that is given, and what follows it. -/
def untilLine (stop : List Char) (dropTabs : Bool) (fuel : Nat) (seen : List Char)
    (t : List Char) : List Char × List Char :=
  match fuel with
  | 0 => (seen, t)
  | fuel + 1 =>
    let line := t.takeWhile (· != '\n')
    let rest := t.drop (line.length + 1)
    let line := if dropTabs then line.dropWhile (· == '\t') else line
    if line == stop || t.isEmpty then (seen, rest)
    else untilLine stop dropTabs fuel (seen ++ line ++ ['\n']) rest

/-- A text that follows on the lines below.  Its lines are cut out of the script. -/
def readHere (dropTabs : Bool) (t : List Char) :
    Except SyntaxError (Redirection × List Char) :=
  match readWord (skipGap t) with
  | .error e => .error e
  | .ok ([], rest) => .error (unexpected rest)
  | .ok (w, rest) =>
    let line := rest.takeWhile (· != '\n')
    let below := rest.drop (line.length + 1)
    let (body, after) := untilLine (unquoted w) dropTabs (below.length + 1) [] below
    let parts := if (plain? w).isSome then allParts .body body else [.text body true]
    .ok (.here parts, line ++ '\n' :: after)

/-- A redirection, if the text starts with one. -/
def readRedirect? (t : List Char) : Option (Except SyntaxError (Redirect × List Char)) :=
  let digits := t.takeWhile Char.isDigit
  let number? := Text.natOfDigits? 10 digits
  let file (source : Nat) (rest : List Char) (f : Word → Redirection) :
      Except SyntaxError (Redirect × List Char) :=
    let rest := skipGap rest
    match readWord rest with
    | .ok ([], _) => .error (unexpected rest)
    | .ok (w, rest) => .ok ((number?.getD source, f w), rest)
    | .error e => .error e
  match t.drop digits.length with
  | '>' :: '>' :: rest => some (file 1 rest (.write · true))
  | '>' :: '&' :: rest => some (file 1 rest .like)
  | '>' :: '|' :: rest => some (file 1 rest (.write · false))
  | '>' :: rest => some (file 1 rest (.write · false))
  | '<' :: '<' :: '-' :: rest =>
    some ((readHere true rest).map fun r => ((number?.getD 0, r.1), r.2))
  | '<' :: '<' :: rest =>
    some ((readHere false rest).map fun r => ((number?.getD 0, r.1), r.2))
  | '<' :: '&' :: rest => some (file 0 rest .like)
  | '<' :: '>' :: rest => some (file 0 rest .read)
  | '<' :: rest => some (file 0 rest .read)
  | _ => none

/-- Reads redirections. -/
def readRedirects (fuel : Nat) (seen : List Redirect) (t : List Char) :
    Except SyntaxError (List Redirect × List Char) :=
  match fuel with
  | 0 => .ok (seen.reverse, t)
  | fuel + 1 =>
    match readRedirect? (skipGap t) with
    | none => .ok (seen.reverse, t)
    | some (.error e) => .error e
    | some (.ok (r, rest)) => readRedirects fuel (r :: seen) rest

/-! ### Commands -/

/-- The name and the value of a word that sets a variable. -/
def assignment? (w : Word) : Option (String × Word) :=
  let isNamePart (part : Part) : Bool :=
    match part with
    | .text t false => t != ['=']
    | _ => false
  let before := w.takeWhile isNamePart
  match w.drop before.length with
  | .text ['='] false :: value =>
    match plain? before with
    | some name => if isName name then some (String.ofList name, value) else none
    | none => none
  | _ => none

/-- Reads the words and redirections of a simple command. -/
def readSimple (fuel : Nat) (c : Simple) (t : List Char) :
    Except SyntaxError (Simple × List Char) :=
  match fuel with
  | 0 => .ok (c, t)
  | fuel + 1 =>
    let t := skipGap t
    match readRedirect? t with
    | some (.error e) => .error e
    | some (.ok (r, rest)) => readSimple fuel { c with redirects := c.redirects ++ [r] } rest
    | none =>
      match readWord t with
      | .error e => .error e
      | .ok ([], _) => .ok (c, t)
      | .ok (w, rest) =>
        match if c.words.isEmpty then assignment? w else none with
        | some a => readSimple fuel { c with assignments := c.assignments ++ [a] } rest
        | none => readSimple fuel { c with words := c.words ++ [w] } rest

/-- Reads words up to the end of a line. -/
def readWords (fuel : Nat) (seen : List Word) (t : List Char) :
    Except SyntaxError (List Word × List Char) :=
  match fuel with
  | 0 => .ok (seen.reverse, t)
  | fuel + 1 =>
    match readWord (skipGap t) with
    | .error e => .error e
    | .ok ([], rest) => .ok (seen.reverse, rest)
    | .ok (w, rest) => readWords fuel (w :: seen) rest

/-- Reads the patterns of a branch, up to the closing parenthesis. -/
def readPatterns (fuel : Nat) (seen : List Word) (t : List Char) :
    Except SyntaxError (List Word × List Char) :=
  match fuel with
  | 0 => .ok (seen.reverse, t)
  | fuel + 1 =>
    match readWord (skipGap t) with
    | .error e => .error e
    | .ok (w, rest) =>
      match w, skipGap rest with
      | [], rest => .error (expecting "\")\"" rest)
      | w, '|' :: rest => readPatterns fuel (w :: seen) rest
      | w, ')' :: rest => .ok ((w :: seen).reverse, rest)
      | _, rest => .error (expecting "\")\"" rest)

/-- The name of a function that is defined here, and what follows its parentheses.  A word with a
parenthesis behind it starts a definition. -/
def readFunctionHead? (t : List Char) : Option (Except SyntaxError (String × List Char)) :=
  match readWord t with
  | .ok (part :: parts, rest) =>
    match assignment? (part :: parts), skipGap rest with
    | none, '(' :: rest =>
      match skipGap rest with
      | ')' :: rest =>
        match (plain? (part :: parts)).filter isName with
        | some name => some (.ok (String.ofList name, rest))
        | none => some (.error ⟨"Bad function name", rest⟩)
      | rest => some (.error (expecting "\")\"" rest))
    | _, _ => none
  | _ => none

mutual

/-- Reads a list of commands; a list on several lines goes on until something closes it. -/
def readList (breaks : Nat) (manyLines : Bool) (fuel : Nat) (t : List Char) :
    Except SyntaxError (Script × List Char) :=
  match fuel with
  | 0 => .error (unexpected t)
  | fuel + 1 =>
    let t := if manyLines then skipLines t.length t else skipGap t
    if isClosed t || (!manyLines && t.head? == some '\n') then .ok (.nothing, t)
    else do
      let (first, rest) ← readAndOr breaks fuel t
      let again (rest : List Char) : Except SyntaxError (Script × List Char) := do
        let (second, rest) ← readList breaks manyLines fuel rest
        .ok (match second with | .nothing => first | _ => .seq first second, rest)
      match skipGap rest with
      | ';' :: ';' :: more => .ok (first, ';' :: ';' :: more)
      | ';' :: more => again more
      | '&' :: more => again more
      | '\n' :: more => if manyLines then again more else .ok (first, '\n' :: more)
      | rest => if isClosed rest then .ok (first, rest) else .error (unexpected rest)

/-- Reads commands joined by `&&` and `||`. -/
def readAndOr (breaks fuel : Nat) (t : List Char) : Except SyntaxError (Script × List Char) :=
  match fuel with
  | 0 => .error (unexpected t)
  | fuel + 1 => do
    let (first, rest) ← readPipeline breaks fuel t
    readMore breaks fuel first rest

/-- Reads what is joined to a command by `&&` and `||`. -/
def readMore (breaks fuel : Nat) (first : Script) (t : List Char) :
    Except SyntaxError (Script × List Char) :=
  match fuel with
  | 0 => .error (unexpected t)
  | fuel + 1 =>
    match skipGap t with
    | '&' :: '&' :: rest => do
      let (second, rest) ← readPipeline breaks fuel (skipLines rest.length rest)
      readMore breaks fuel (.both first second) rest
    | '|' :: '|' :: rest => do
      let (second, rest) ← readPipeline breaks fuel (skipLines rest.length rest)
      readMore breaks fuel (.either first second) rest
    | rest => .ok (first, rest)

/-- Reads commands joined by `|`. -/
def readPipeline (breaks fuel : Nat) (t : List Char) : Except SyntaxError (Script × List Char) :=
  match fuel with
  | 0 => .error (unexpected t)
  | fuel + 1 =>
    let t := skipGap t
    if startsWith "!" t then do
      let (body, rest) ← readPipeline breaks fuel (t.drop 1)
      .ok (.invert body, rest)
    else do
      let (first, rest) ← readCommand breaks fuel t
      match skipGap rest with
      | '|' :: '|' :: more => .ok (first, '|' :: '|' :: more)
      | '|' :: more =>
        let (second, rest) ← readPipeline breaks fuel (skipLines more.length more)
        .ok (.pipe first second, rest)
      | rest => .ok (first, rest)

/-- Reads a command. -/
def readCommand (breaks fuel : Nat) (t : List Char) : Except SyntaxError (Script × List Char) :=
  match fuel with
  | 0 => .error (unexpected t)
  | fuel + 1 =>
    let t := skipGap t
    let line := breaks - countBreaks t + 1
    let compound (body : Script) (rest : List Char) :
        Except SyntaxError (Script × List Char) := do
      let (rs, rest) ← readRedirects rest.length [] rest
      .ok (if rs.isEmpty then body else .redirected line body rs, rest)
    let inner := readList breaks true fuel
    match t with
    | '(' :: rest => do
      let (body, rest) ← inner rest
      match body, rest with
      | .nothing, rest => .error (unexpected rest)
      | body, ')' :: rest => compound (.subshell body) rest
      | _, rest => .error (expecting "\")\"" rest)
    | _ =>
      match peekWord t with
      | some "\x7b" => do
        let (body, rest) ← inner (t.drop 1)
        let rest ← expectWord "\x7d" rest
        compound body rest
      | some "if" => do
        let (script, rest) ← readBranches breaks fuel (t.drop 2)
        compound script rest
      | some "while" => do
        let (test, rest) ← inner (t.drop 5)
        let rest ← expectWord "do" rest
        let (body, rest) ← inner rest
        let rest ← expectWord "done" rest
        compound (.loop false test body) rest
      | some "until" => do
        let (test, rest) ← inner (t.drop 5)
        let rest ← expectWord "do" rest
        let (body, rest) ← inner rest
        let rest ← expectWord "done" rest
        compound (.loop true test body) rest
      | some "for" => do
        let t := skipGap (t.drop 3)
        let name := (peekWord t).getD ""
        if !isName name.toList then .error ⟨"Bad for loop variable", t⟩
        else
          let rest := t.drop name.length
          let below := skipLines rest.length rest
          let (items, rest) ←
            if startsWith "in" below then do
              let (ws, rest) ← readWords t.length [] (below.drop 2)
              match skipGap rest with
              | ';' :: ';' :: rest => .error (unexpected (';' :: ';' :: rest))
              | ';' :: rest => .ok (some ws, rest)
              | '\n' :: rest => .ok (some ws, rest)
              | rest => .error (unexpected rest)
            else match below with
              | ';' :: ';' :: rest => .ok (none, ';' :: ';' :: rest)
              | ';' :: rest => .ok (none, rest)
              | rest => .ok (none, rest)
          let rest ← expectWord "do" rest
          let (body, rest) ← inner rest
          let rest ← expectWord "done" rest
          compound (.forEach name items body) rest
      | some "case" => do
        let (word, rest) ← readWord (skipGap (t.drop 4))
        let rest ← expectWord "in" rest
        let (branches, rest) ← readCases breaks fuel rest
        compound (.cases word branches) rest
      | some w =>
        if reserved.contains w then .error (unexpected t)
        else readOther breaks fuel line t
      | none => readOther breaks fuel line t

/-- Reads the definition of a function, or a simple command. -/
def readOther (breaks fuel line : Nat) (t : List Char) : Except SyntaxError (Script × List Char) :=
  match fuel with
  | 0 => .error (unexpected t)
  | fuel + 1 =>
    match readFunctionHead? t with
    | some (.error e) => .error e
    | some (.ok (name, rest)) => do
      let (body, rest) ← readCommand breaks fuel (skipLines rest.length rest)
      .ok (.define name body, rest)
    | none => do
      let (c, rest) ← readSimple t.length ⟨line, [], [], []⟩ t
      if c.words.isEmpty && c.assignments.isEmpty && c.redirects.isEmpty then
        .error (unexpected rest)
      else .ok (.simple c, rest)

/-- Reads the test and the branches of an `if`, up to its end. -/
def readBranches (breaks fuel : Nat) (t : List Char) : Except SyntaxError (Script × List Char) :=
  match fuel with
  | 0 => .error (unexpected t)
  | fuel + 1 => do
    let (test, rest) ← readList breaks true fuel t
    let rest ← expectWord "then" rest
    let (yes, rest) ← readList breaks true fuel rest
    if startsWith "elif" rest then
      let (no, rest) ← readBranches breaks fuel (rest.drop 4)
      .ok (.choose test yes no, rest)
    else if startsWith "else" rest then
      let (no, rest) ← readList breaks true fuel (rest.drop 4)
      let rest ← expectWord "fi" rest
      .ok (.choose test yes no, rest)
    else
      let rest ← expectWord "fi" rest
      .ok (.choose test yes .nothing, rest)

/-- Reads the branches of a `case`, up to its end. -/
def readCases (breaks fuel : Nat) (t : List Char) : Except SyntaxError (Script × List Char) :=
  match fuel with
  | 0 => .error (unexpected t)
  | fuel + 1 =>
    let t := skipLines t.length t
    if startsWith "esac" t then .ok (.nothing, t.drop 4)
    else do
      let (patterns, rest) ← readPatterns (t.length + 1) [] (match t with | '(' :: r => r | t => t)
      let (body, rest) ← readList breaks true fuel rest
      match rest with
      | ';' :: ';' :: rest =>
        let (more, rest) ← readCases breaks fuel rest
        .ok (.branch patterns body more, rest)
      | rest =>
        let rest := skipLines rest.length rest
        if startsWith "esac" rest then .ok (.branch patterns body .nothing, rest.drop 4)
        else .error (expecting "\";;\"" rest)

end

/-- Reads the commands of one line; `breaks` is the number of line feeds of the whole script. -/
def readLine (breaks : Nat) (t : List Char) : Except SyntaxError (Script × List Char) :=
  let t := skipLines t.length t
  if t.isEmpty then .ok (.nothing, [])
  else do
    let (script, rest) ← readList breaks false (8 * (t.length + 1)) t
    match rest with
    | [] => .ok (script, [])
    | '\n' :: rest => .ok (script, rest)
    | rest => .error (unexpected rest)

end StyleAudit.Script
