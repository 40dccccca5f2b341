import StyleAudit.Tool.Shell.Cat
import StyleAudit.Tool.Shell.Expression
import StyleAudit.Tool.Shell.Printed

/-!
# Small tools for text

Tools that read files, or their input, and print what they make of it.  A tool takes the disk,
its input and its arguments, and gives what it prints, what it complains about and its code.
-/

namespace StyleAudit.Filter

/-- What a tool prints, what it complains about, and its code. -/
structure Result where
  /-- What it prints. -/
  out : List UInt8 := []
  /-- What it complains about. -/
  err : List UInt8 := []
  /-- Its code. -/
  code : Nat := 0

/-- A tool. -/
abbrev Tool := Disk → List UInt8 → List String → Result

/-- The bytes of a text. -/
def bytes (s : String) : List UInt8 := Utf8.encode s.toList

/-- A tool that only prints a text. -/
def printing (s : String) : Result := { out := bytes s }

/-- A tool that only complains. -/
def complaining (s : String) (code : Nat) : Result := { err := bytes s, code }

/-- The value of a decimal numeral. -/
def nat? (s : String) : Option Nat := Text.natOfDigits? 10 s.toList

/-- The arguments that are options, without the dash, and the others. -/
def options (args : List String) : List (List Char) × List String :=
  let isOption (a : String) : Bool := match a.toList with
    | '-' :: _ :: _ => a != "--"
    | _ => false
  ((args.filter isOption).map (·.toList.drop 1), args.filter fun a => !isOption a && a != "--")

/-- The bytes of each file, or of the input if no file is named, and the complaints. -/
def readAll (tool : String) (disk : Disk) (input : List UInt8) (files : List String)
    (complaint : String → DiskError → String) : List (String × List UInt8) × List UInt8 :=
  let files := if files.isEmpty then ["-"] else files
  let found := files.map fun f =>
    if f == "-" then (f, Except.ok input) else (f, Cat.contents disk f)
  (found.filterMap fun r => r.2.toOption.map (r.1, ·),
    found.flatMap fun r => match r.2 with
      | .ok _ => []
      | .error e => bytes (tool ++ ": " ++ complaint r.1 e ++ "\n"))

/-- The usual complaint about a file. -/
def plainComplaint (file : String) (e : DiskError) : String := file ++ ": " ++ e.reason

/-- The complaint of tools that open a file for reading. -/
def openComplaint (file : String) (e : DiskError) : String :=
  if e == .isDirectory then "error reading '" ++ file ++ "': " ++ e.reason
  else "cannot open '" ++ file ++ "' for reading: " ++ e.reason

/-- The lines of bytes, each with its line feed. -/
def byteLines (bs : List UInt8) : List (List UInt8) :=
  (Cat.linesOf [] bs).map fun l => if l.2 then l.1 ++ [0x0A] else l.1

/-! ### Names -/

/-- A text without slashes at its end. -/
def dropSlashes (t : List Char) : List Char := (t.reverse.dropWhile (· == '/')).reverse

/-- The last component of a path, without a suffix if that is not all of it. -/
def baseOf (path suffix : String) : String :=
  let t := dropSlashes path.toList
  if t.isEmpty then if path.isEmpty then "" else "/"
  else
    let base := (Text.splitAtChar '/' t).getLast?.getD []
    let isCut := suffix.toList.isSuffixOf base && base != suffix.toList
    String.ofList (if isCut then base.take (base.length - suffix.length) else base)

/-- `basename`. -/
def basename : Tool := fun _ _ args =>
  match args with
  | [] => complaining
    "basename: missing operand\nTry 'basename --help' for more information.\n" 1
  | path :: rest => printing (baseOf path (rest.headD "") ++ "\n")

/-- What stands before the last component of a path. -/
def dirOf (path : String) : String :=
  let t := dropSlashes path.toList
  let base := (Text.splitAtChar '/' t).getLast?.getD []
  let before := t.take (t.length - base.length)
  if before.isEmpty then if t.isEmpty && !path.isEmpty then "/" else "."
  else
    let parent := dropSlashes before
    if parent.isEmpty then "/" else String.ofList parent

/-- `dirname`. -/
def dirname : Tool := fun _ _ args =>
  match args with
  | [] => complaining
    "dirname: missing operand\nTry 'dirname --help' for more information.\n" 1
  | args => printing (String.join (args.map fun a => dirOf a ++ "\n"))

/-! ### Parts of texts -/

/-- The number of lines that options ask for, and the mark before it. -/
def countOf (args : List String) : Nat × Option Char × List String :=
  let value (s : String) : Nat × Option Char := match s.toList with
    | '+' :: ds => ((Text.natOfDigits? 10 ds).getD 0, some '+')
    | '-' :: ds => ((Text.natOfDigits? 10 ds).getD 0, some '-')
    | ds => ((Text.natOfDigits? 10 ds).getD 10, none)
  match args with
  | "-n" :: n :: rest => ((value n).1, (value n).2, rest)
  | a :: rest =>
    match a.toList with
    | '-' :: 'n' :: n => let v := value (String.ofList n); (v.1, v.2, rest)
    | '-' :: d :: ds => if d.isDigit then (((nat? (String.ofList (d :: ds))).getD 10), none, rest)
      else (10, none, args)
    | _ => (10, none, args)
  | [] => (10, none, [])

/-- The files one after the other, each under its name if there are several. -/
def withNames (files : List (String × List UInt8)) (part : List (List UInt8) → List (List UInt8)) :
    List UInt8 :=
  let shown := files.map fun f =>
    let body := (part (byteLines f.2)).flatten
    if files.length ≤ 1 then body
    else bytes ("==> " ++ (if f.1 == "-" then "standard input" else f.1) ++ " <==\n") ++ body
  (shown.intersperse (if files.length ≤ 1 then [] else [0x0A])).flatten

/-- `head`. -/
def head : Tool := fun disk input args =>
  let (n, mark, files) := countOf args
  let (found, err) := readAll "head" disk input files openComplaint
  let part (ls : List (List UInt8)) := ls.take (if mark == some '-' then ls.length - n else n)
  { out := withNames found part, err, code := if err.isEmpty then 0 else 1 }

/-- `tail`. -/
def tail : Tool := fun disk input args =>
  let (n, mark, files) := countOf args
  let (found, err) := readAll "tail" disk input files openComplaint
  let part (ls : List (List UInt8)) := ls.drop (if mark == some '+' then n - 1 else ls.length - n)
  { out := withNames found part, err, code := if err.isEmpty then 0 else 1 }

/-- `tac`. -/
def tac : Tool := fun disk input args =>
  let (found, err) := readAll "tac" disk input args fun f e =>
    "failed to open '" ++ f ++ "' for reading: " ++ e.reason
  { out := found.flatMap fun f => (byteLines f.2).reverse.flatten, err,
    code := if err.isEmpty then 0 else 1 }

/-- `rev`. -/
def rev : Tool := fun disk input args =>
  let (found, err) := readAll "rev" disk input args fun f e =>
    "cannot open " ++ f ++ ": " ++ e.reason
  let turn (l : List UInt8 × Bool) : List UInt8 :=
    Utf8.encode (Utf8.decode l.1).reverse ++ (if l.2 then [0x0A] else [])
  { out := found.flatMap fun f => (Cat.linesOf [] f.2).flatMap turn, err,
    code := if err.isEmpty then 0 else 1 }

/-! ### Counting and sorting -/

/-- The number of runs of bytes without blanks. -/
def countWords (isInside : Bool) : List UInt8 → Nat
  | [] => 0
  | b :: rest =>
    if b == 0x20 || (0x09 ≤ b && b ≤ 0x0D) then countWords false rest
    else (if isInside then 0 else 1) + countWords true rest

/-- `wc`. -/
def wc : Tool := fun disk input args =>
  let (opts, files) := options args
  let letters := opts.flatten
  let letters := if letters.isEmpty then ['l', 'w', 'c'] else letters
  let (found, err) := readAll "wc" disk input files plainComplaint
  let counts (bs : List UInt8) : List Nat :=
    (if letters.contains 'l' then [bs.count 0x0A] else []) ++
      (if letters.contains 'w' then [countWords false bs] else []) ++
      (if letters.contains 'm' then [(Utf8.decode bs).length] else []) ++
      (if letters.contains 'c' then [bs.length] else [])
  let rows := found.map fun f => (f.1, counts f.2)
  let rows := if found.length ≤ 1 then rows
    else rows ++ [("total", counts (found.flatMap (·.2)))]
  let largest := (found.map (·.2.length)).foldl (· + ·) 0
  let width := if files.isEmpty then if letters.length == 1 then 1 else 7
    else if found.length == 1 && letters.length == 1 then 1 else (toString largest).length
  let cell (n : Nat) : String :=
    String.ofList (List.replicate (width - (toString n).length) ' ') ++ toString n
  let row (r : String × List Nat) : String :=
    " ".intercalate (r.2.map cell) ++ (if files.isEmpty then "" else " " ++ r.1) ++ "\n"
  { out := bytes (String.join (rows.map row)), err, code := if err.isEmpty then 0 else 1 }

/-- The order of bytes. -/
def bytesLe : List UInt8 → List UInt8 → Bool
  | [], _ => true
  | _ :: _, [] => false
  | a :: as, b :: bs => if a == b then bytesLe as bs else a < b

/-- Keeps the first of equal neighbours. -/
def dropRepeats : List (List UInt8) → List (List UInt8)
  | [] => []
  | l :: rest =>
    match dropRepeats rest with
    | m :: more => if l == m then m :: more else l :: m :: more
    | [] => [l]

/-- The lines of all files, without line feeds. -/
def allLines (found : List (String × List UInt8)) : List (List UInt8) :=
  found.flatMap fun f => (Cat.linesOf [] f.2).map (·.1)

/-- Lines with line feeds. -/
def ended (ls : List (List UInt8)) : List UInt8 := ls.flatMap (· ++ [0x0A])

/-- `sort`. -/
def sort : Tool := fun disk input args =>
  let (opts, files) := options args
  let letters := opts.flatten
  let (found, err) := readAll "sort" disk input files fun f e =>
    "cannot read: " ++ f ++ ": " ++ e.reason
  let key (l : List UInt8) : Nat :=
    (nat? (String.ofList ((Utf8.decode l).takeWhile Char.isDigit))).getD 0
  let le (a b : List UInt8) : Bool :=
    if letters.contains 'n' && key a != key b then key a < key b else bytesLe a b
  let ls := (allLines found).mergeSort fun a b => if letters.contains 'r' then le b a else le a b
  let ls := if letters.contains 'u' then dropRepeats ls else ls
  if err.isEmpty then { out := ended ls } else { err, code := 2 }

/-- `uniq`. -/
def uniq : Tool := fun disk input args =>
  let (_, files) := options args
  let (found, err) := readAll "uniq" disk input files plainComplaint
  { out := ended (dropRepeats (allLines found)), err, code := if err.isEmpty then 0 else 1 }

/-- `seq`. -/
def seq : Tool := fun _ _ args =>
  let values := args.map fun a => (Printed.numberOf a).1
  let (first, step, last) : Int × Int × Int := match values with
    | [n] => (1, 1, n)
    | [m, n] => (m, 1, n)
    | m :: k :: n :: _ => (m, k, n)
    | [] => (1, 1, 0)
  let count := if step == 0 then 0 else ((last - first).fdiv step + 1).toNat
  { out := bytes (String.join ((List.range count).map fun i =>
      toString (first + step * (i : Nat)) ++ "\n")) }

/-! ### Changing characters -/

/-- The characters that a description stands for: intervals, classes and escapes. -/
def charSet (fuel : Nat) (t : List Char) : List Char :=
  match fuel with
  | 0 => []
  | fuel + 1 =>
    let interval (a b : Char) : List Char :=
      (List.range (b.toNat + 1 - a.toNat)).map fun i => Char.ofNat (a.toNat + i)
    let after (name : String) : Option (List Char) :=
      if name.toList.isPrefixOf t then some (t.drop name.length) else none
    match after "[:upper:]", after "[:lower:]", after "[:digit:]", after "[:space:]" with
    | some rest, _, _, _ => interval 'A' 'Z' ++ charSet fuel rest
    | _, some rest, _, _ => interval 'a' 'z' ++ charSet fuel rest
    | _, _, some rest, _ => interval '0' '9' ++ charSet fuel rest
    | _, _, _, some rest => [' ', '\t', '\n', '\r', '\x0b', '\x0c'] ++ charSet fuel rest
    | _, _, _, _ =>
      match t with
      | [] => []
      | '\\' :: rest =>
        let (b, rest) := Printed.readEscape rest
        Char.ofNat b.toNat :: charSet fuel rest
      | a :: '-' :: b :: rest => interval a b ++ charSet fuel rest
      | a :: rest => a :: charSet fuel rest

/-- `tr`. -/
def tr : Tool := fun _ input args =>
  let (opts, sets) := options args
  let letters := opts.flatten
  let set (s : String) : List Char := charSet (s.length + 1) s.toList
  let first := set (sets.headD "")
  let isIn (c : Char) : Bool := first.contains c != (letters.contains 'c' || letters.contains 'C')
  let t := Utf8.decode input
  let result :=
    if letters.contains 'd' then t.filter fun c => !isIn c
    else
      let second := set ((sets.drop 1).headD "")
      let change (c : Char) : Char :=
        if !isIn c then c
        else
          let i := first.idxOf c
          (second[i]?).getD (second.getLast?.getD c)
      t.map change
  let squeezed := if letters.contains 's' then
      let chosen := if 1 < sets.length then set ((sets.drop 1).headD "") else first
      result.foldr (fun c acc => if acc.head? == some c && chosen.contains c then acc
        else c :: acc) []
    else result
  { out := Utf8.encode squeezed }

/-! ### Searching and replacing -/

/-- `grep`. -/
def grep : Tool := fun disk input args =>
  let (opts, rest) := options args
  let letters := opts.flatten
  let has (c : Char) : Bool := letters.contains c
  let pattern := (rest.headD "").toList
  let files := rest.drop 1
  let lower (t : List Char) : List Char := if has 'i' then t.map Char.toLower else t
  let expr := Expression.parse (has 'E') (lower pattern)
  let isFound (l : List UInt8) : Bool :=
    let t := lower (Utf8.decode l)
    (if has 'F' then Wildcard.someEnd ((lower pattern).isPrefixOf ·) t
      else if has 'x' then expr.here? t == some t.length else expr.occurs t) != has 'v'
  let (found, err) := readAll "grep" disk input files plainComplaint
  let hits := found.map fun f =>
    (f.1, ((Cat.linesOf [] f.2).zipIdx).filter fun l => isFound l.1.1)
  let label (name : String) : String := if 1 < files.length then name ++ ":" else ""
  let shown := hits.flatMap fun h =>
    if has 'q' then []
    else if has 'c' then bytes (label h.1 ++ toString h.2.length ++ "\n")
    else if has 'l' then if h.2.isEmpty then [] else bytes (h.1 ++ "\n")
    else h.2.flatMap fun l =>
      bytes (label h.1 ++ (if has 'n' then toString (l.2 + 1) ++ ":" else "")) ++ l.1.1 ++ [0x0A]
  { out := shown, err,
    code := if !err.isEmpty then 2 else if hits.any (!·.2.isEmpty) then 0 else 1 }

/-- What a command of `sed` does. -/
inductive Edit where
  /-- Replaces matches, perhaps all of them, and perhaps prints the line. -/
  | replace (expr : Expression.Expr) (new : List Char) (all prints : Bool)
  /-- Leaves out the line. -/
  | delete
  /-- Prints the line. -/
  | print
  /-- Stops behind the line. -/
  | quit

/-- The lines that a command applies to. -/
inductive Address where
  /-- All lines. -/
  | every
  /-- The line with a number. -/
  | line (n : Nat)
  /-- The lines between two numbers. -/
  | between (first last : Nat)
  /-- The last line. -/
  | last
  /-- Lines that match. -/
  | found (expr : Expression.Expr)

/-- What stands up to a separator that has no backslash before it, and what follows. -/
def untilSeparator (sep : Char) (seen : List Char) : List Char → List Char × List Char
  | [] => (seen.reverse, [])
  | '\\' :: c :: t =>
    if c == sep then untilSeparator sep (c :: seen) t
    else untilSeparator sep (c :: '\\' :: seen) t
  | c :: t => if c == sep then (seen.reverse, t) else untilSeparator sep (c :: seen) t

/-- Reads an address. -/
def readAddress (isExtended : Bool) (t : List Char) : Address × List Char :=
  let number (t : List Char) : Nat := (Text.natOfDigits? 10 (t.takeWhile Char.isDigit)).getD 0
  match t with
  | '$' :: rest => (.last, rest)
  | '/' :: rest =>
    let (pattern, rest) := untilSeparator '/' [] rest
    (.found (Expression.parse isExtended pattern), rest)
  | c :: _ =>
    if c.isDigit then
      match t.dropWhile Char.isDigit with
      | ',' :: '$' :: rest => (.between (number t) 0xFFFFFFFF, rest)
      | ',' :: rest => (.between (number t) (number rest), rest.dropWhile Char.isDigit)
      | rest => (.line (number t), rest)
    else (.every, t)
  | [] => (.every, [])

/-- Reads the commands of a script for `sed`. -/
def readEdits (isExtended : Bool) (fuel : Nat) (t : List Char) :
    Option (List (Address × Edit)) :=
  match fuel with
  | 0 => none
  | fuel + 1 =>
    match t.dropWhile fun c => c == ' ' || c == ';' || c == '\n' with
    | [] => some []
    | t =>
      let (address, rest) := readAddress isExtended t
      let next (e : Edit) (rest : List Char) : Option (List (Address × Edit)) :=
        (readEdits isExtended fuel rest).map ((address, e) :: ·)
      match rest.dropWhile (· == ' ') with
      | 'd' :: rest => next .delete rest
      | 'p' :: rest => next .print rest
      | 'q' :: rest => next .quit rest
      | 's' :: sep :: rest =>
        let (pattern, rest) := untilSeparator sep [] rest
        let (new, rest) := untilSeparator sep [] rest
        let flags := rest.takeWhile fun c => c == 'g' || c == 'p'
        next (.replace (Expression.parse isExtended pattern) new (flags.contains 'g')
          (flags.contains 'p')) (rest.drop flags.length)
      | _ => none

/-- The address covers a line. -/
def Address.covers (a : Address) (n : Nat) (isLast : Bool) (t : List Char) : Bool :=
  match a with
  | .every => true
  | .line k => n == k
  | .between low high => low ≤ n && (n ≤ high || n == low)
  | .last => isLast
  | .found e => e.occurs t

/-- Applies commands to a line: what is printed, the line if it is kept, and whether to stop. -/
def applyEdits (n : Nat) (isLast : Bool) (t : List Char) :
    List (Address × Edit) → List (List Char) × Option (List Char) × Bool
  | [] => ([], some t, false)
  | (a, e) :: rest =>
    if !a.covers n isLast t then applyEdits n isLast t rest
    else match e with
      | .delete => ([], none, false)
      | .quit => ([], some t, true)
      | .print =>
        let (out, kept, isDone) := applyEdits n isLast t rest
        (t :: out, kept, isDone)
      | .replace expr new all prints =>
        let changed := expr.replace all new (t.length + 2) t
        let (out, kept, isDone) := applyEdits n isLast changed rest
        (if prints && expr.occurs t then changed :: out else out, kept, isDone)

/-- Runs commands over lines. -/
def editLines (quiet : Bool) (edits : List (Address × Edit)) (n : Nat) :
    List (List UInt8 × Bool) → List UInt8
  | [] => []
  | (line, isEnded) :: rest =>
    let (out, kept, isDone) := applyEdits n rest.isEmpty (Utf8.decode line) edits
    let shown := out ++ (if quiet then [] else kept.toList)
    let done := (shown.map Utf8.encode).intersperse [0x0A] |>.flatten
    done ++ (if shown.isEmpty then [] else if isEnded then [0x0A] else []) ++
      (if isDone then [] else editLines quiet edits (n + 1) rest)

/-- `sed`. -/
def sed : Tool := fun disk input args =>
  let (opts, rest) := options args
  let has (c : Char) : Bool := opts.flatten.contains c
  let script := rest.headD ""
  match readEdits (has 'E' || has 'r') (script.length + 2) script.toList with
  | none => complaining
      ("sed: -e expression #1, char " ++ toString script.length ++ ": unknown command\n") 1
  | some edits =>
    let (found, err) := readAll "sed" disk input (rest.drop 1) fun f e =>
      if e == .isDirectory then "couldn't edit " ++ f ++ ": not a regular file"
      else "can't read " ++ f ++ ": " ++ e.reason
    { out := editLines (has 'n') edits 1 (Cat.linesOf [] (found.flatMap (·.2))), err,
      code := if err.isEmpty then 0 else 2 }

/-! ### Columns and directories -/

/-- The positions, from one on, that a range of a list names. -/
def inRange (range : List Char) (n : Nat) : Bool :=
  let value (t : List Char) (default : Nat) : Nat := (Text.natOfDigits? 10 t).getD default
  match Text.splitAtChar '-' range with
  | [a] => n == value a 0
  | a :: b :: _ => value a 1 ≤ n && (b.isEmpty || n ≤ value b 0)
  | [] => false

/-- The items whose positions a list of ranges names. -/
def pick {α : Type} (ranges : List Char) (items : List α) : List α :=
  let parts := Text.splitAtChar ',' ranges
  (items.zipIdx.filter fun i => parts.any (inRange · (i.2 + 1))).map (·.1)

/-- The value of an option that stands behind its letter or in the next argument. -/
def valueOf? (letter : Char) : List String → Option (List Char)
  | [] => none
  | arg :: rest =>
    match arg.toList with
    | '-' :: c :: value =>
      if c == letter then some (if value.isEmpty then (rest.headD "").toList else value)
      else valueOf? letter rest
    | _ => valueOf? letter rest

/-- The arguments that are neither options nor values of options with the given letters. -/
def plainArgs (letters : List Char) : List String → List String
  | [] => []
  | arg :: rest =>
    match arg.toList with
    | ['-', c] => if letters.contains c then plainArgs letters (rest.drop 1)
      else plainArgs letters rest
    | '-' :: _ :: _ => plainArgs letters rest
    | _ => arg :: plainArgs letters rest
  termination_by args => args.length

/-- `cut`. -/
def cut : Tool := fun disk input args =>
  let (found, err) := readAll "cut" disk input (plainArgs ['b', 'c', 'd', 'f'] args) plainComplaint
  let mark := ((valueOf? 'd' args).bind List.head?).getD '\t'
  let edit (line : List UInt8) : List UInt8 :=
    match valueOf? 'f' args, (valueOf? 'c' args).or (valueOf? 'b' args) with
    | some ranges, _ =>
      let parts := Text.splitAtChar mark (Utf8.decode line)
      if parts.length ≤ 1 then line
      else Utf8.encode (List.intercalate [mark] (pick ranges parts))
    | none, some ranges => pick ranges line
    | none, none => line
  let lines := (found.flatMap (·.2) |> Cat.linesOf []).map (·.1)
  { out := lines.flatMap fun l => edit l ++ [0x0A]
    err
    code := if err.isEmpty then 0 else 1 }

/-- `ls` of directories and files, one name a line. -/
def ls : Tool := fun disk _ args =>
  let (opts, files) := options args
  let isShown (name : String) : Bool := opts.flatten.contains 'a' || opts.flatten.contains 'A' ||
    name.toList.head? != some '.'
  let sorted (names : List String) : List String :=
    names.mergeSort fun a b => (Path.compareChars a.toList b.toList).isLE
  let files := if files.isEmpty then ["."] else files
  let missing := files.filter fun f => !disk.contains ⟨f⟩
  let plain := sorted (files.filter fun f => disk.isFile ⟨f⟩)
  let dirs := sorted (files.filter fun f => disk.isDir ⟨f⟩)
  let listing (dir : String) : List String :=
    match disk.lookup? ⟨dir⟩ with
    | some (.dir _ entries) => sorted ((entries.map (·.1)).filter isShown)
    | _ => []
  let titled := 1 < files.length
  let blocks := (if plain.isEmpty then [] else [plain]) ++
    dirs.map fun d => (if titled then [d ++ ":"] else []) ++ listing d
  let text := "\n".intercalate (blocks.map fun b => String.join (b.map (· ++ "\n")))
  { out := bytes text
    err := bytes (String.join (missing.map fun f =>
      "ls: cannot access '" ++ f ++ "': No such file or directory\n"))
    code := if missing.isEmpty then 0 else 2 }

/-! ### All of them -/

/-- `cat`. -/
def cat : Tool := fun disk input args =>
  let (out, err, code) := Cat.run disk input args
  ⟨out, err, code⟩

/-- A span of time: a decimal number, perhaps with the letter of a unit. -/
def isSpan (s : String) : Bool :=
  let t := s.toList
  let t := if (t.getLast?.any fun c => ['s', 'm', 'h', 'd'].contains c) then t.dropLast else t
  t.all (fun c => c.isDigit || c == '.') && t.any Char.isDigit && t.count '.' ≤ 1

/-- `sleep`. -/
def sleep : Tool := fun _ _ args =>
  let help := "Try 'sleep --help' for more information.\n"
  if args.isEmpty then complaining ("sleep: missing operand\n" ++ help) 1
  else match args.filter (!isSpan ·) with
    | [] => {}
    | bad => complaining (String.join (bad.map fun b =>
        "sleep: invalid time interval '" ++ b ++ "'\n") ++ help) 1

/-- The tools by name. -/
def byName : List (String × Tool) :=
  [("cat", cat), ("basename", basename), ("dirname", dirname), ("head", head), ("tail", tail),
    ("tac", tac), ("rev", rev), ("wc", wc), ("sort", sort), ("uniq", uniq), ("seq", seq),
    ("tr", tr), ("grep", grep), ("sed", sed), ("cut", cut), ("ls", ls), ("sleep", sleep)]

end StyleAudit.Filter
