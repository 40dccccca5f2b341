import StyleAudit.Disk
import StyleAudit.Text.Utf8

/-!
# The tool `cat`

`cat` prints files one after the other, or its input for a dash or if no file is named.  Options
number the lines, leave out repeated empty lines, and show ends of lines, tabs and other
characters that cannot be seen.  A file that cannot be read is complained about and skipped.
-/

namespace StyleAudit.Cat

/-- What is changed on the way. -/
structure Options where
  /-- All lines are numbered. -/
  number : Bool := false
  /-- Lines that are not empty are numbered. -/
  numberFilled : Bool := false
  /-- Of empty lines in a row, only the first is kept. -/
  squeeze : Bool := false
  /-- Ends of lines are shown. -/
  ends : Bool := false
  /-- Tabs are shown. -/
  tabs : Bool := false
  /-- Other characters that cannot be seen are shown. -/
  controls : Bool := false

/-- Sets the option of a letter. -/
def Options.ofLetter? (o : Options) (c : Char) : Option Options :=
  match c with
  | 'A' => some { o with ends := true, tabs := true, controls := true }
  | 'b' => some { o with numberFilled := true }
  | 'e' => some { o with ends := true, controls := true }
  | 'E' => some { o with ends := true }
  | 'n' => some { o with number := true }
  | 's' => some { o with squeeze := true }
  | 't' => some { o with tabs := true, controls := true }
  | 'T' => some { o with tabs := true }
  | 'u' => some o
  | 'v' => some { o with controls := true }
  | _ => none

/-- The long names of options, with their letters. -/
def longNames : List (String × Char) :=
  [("show-all", 'A'), ("number-nonblank", 'b'), ("show-ends", 'E'), ("number", 'n'),
    ("squeeze-blank", 's'), ("show-tabs", 'T'), ("show-nonprinting", 'v')]

/-- The option that a long name, or the beginning of just one of them, stands for. -/
def Options.ofName? (o : Options) (name : String) : Except String Options :=
  let found := longNames.filter fun n => name.toList.isPrefixOf n.1.toList
  match found.find? (·.1 == name), found with
  | some n, _ => .ok ((o.ofLetter? n.2).getD o)
  | none, [n] => .ok ((o.ofLetter? n.2).getD o)
  | none, [] => .error ("unrecognized option '--" ++ name ++ "'")
  | none, several =>
    .error ("option '--" ++ name ++ "' is ambiguous; possibilities:" ++
      String.join (several.map fun n => " '--" ++ n.1 ++ "'"))

/-- Sets the options of letters behind a dash. -/
def Options.ofLetters (o : Options) : List Char → Except String Options
  | [] => .ok o
  | c :: rest =>
    match o.ofLetter? c with
    | some o => o.ofLetters rest
    | none => .error ("invalid option -- '" ++ String.ofList [c] ++ "'")

/-- The options and the files that arguments name.  Options may stand behind files. -/
def readArgs (o : Options) (files : List String) :
    List String → Except String (Options × List String)
  | [] => .ok (o, files.reverse)
  | "--" :: rest => .ok (o, files.reverse ++ rest)
  | arg :: rest =>
    match arg.toList with
    | '-' :: '-' :: name =>
      match o.ofName? (String.ofList name) with
      | .ok o => readArgs o files rest
      | .error e => .error e
    | '-' :: c :: letters =>
      match o.ofLetters (c :: letters) with
      | .ok o => readArgs o files rest
      | .error e => .error e
    | _ => readArgs o (arg :: files) rest

/-! ### Showing -/

/-- The bytes of a text. -/
def bytes (s : String) : List UInt8 := Utf8.encode s.toList

/-- A byte as it is shown. -/
def showByte (o : Options) (b : UInt8) : List UInt8 :=
  if b == 0x09 then if o.tabs then bytes "^I" else [b]
  else if !o.controls then [b]
  else
    let (mark, low) := if b < 0x80 then ([], b) else (bytes "M-", b - 0x80)
    mark ++
      (if low < 0x20 then [0x5E, low + 0x40] else if low == 0x7F then bytes "^?" else [low])

/-- The bytes of a line as they are shown, without its end. -/
def showLine (o : Options) (isEnded : Bool) (line : List UInt8) : List UInt8 :=
  if o.ends && !o.controls && isEnded && line.getLast? == some 0x0D then
    line.dropLast.flatMap (showByte o) ++ bytes "^M"
  else line.flatMap (showByte o)

/-- The number of a line as it is shown. -/
def showNumber (n : Nat) : List UInt8 :=
  let digits := toString n
  List.replicate (6 - digits.length) 0x20 ++ bytes digits ++ [0x09]

/-- The lines of bytes, each with the mark whether a line feed ends it. -/
def linesOf (line : List UInt8) : List UInt8 → List (List UInt8 × Bool)
  | [] => if line.isEmpty then [] else [(line.reverse, false)]
  | b :: rest => if b == 0x0A then (line.reverse, true) :: linesOf [] rest
    else linesOf (b :: line) rest

/-- Shows lines.  `n` is the number of the last line that was numbered, and `afterEmpty` tells
whether the line before was empty. -/
def showLines (o : Options) (n : Nat) (afterEmpty : Bool) : List (List UInt8 × Bool) → List UInt8
  | [] => []
  | (line, isEnded) :: rest =>
    let isEmpty := line.isEmpty
    if o.squeeze && isEmpty && afterEmpty then showLines o n true rest
    else
      let isNumbered := if o.numberFilled then !isEmpty else o.number
      (if isNumbered then showNumber (n + 1) else []) ++ showLine o isEnded line ++
        (if isEnded then (if o.ends then [0x24] else []) ++ [0x0A] else []) ++
        showLines o (if isNumbered then n + 1 else n) isEmpty rest

/-- The bytes at a path; nothing can be read from the empty device. -/
def contents (disk : Disk) (file : String) : Except DiskError (List UInt8) :=
  if file == "/dev/null" then .ok [] else disk.read ⟨file⟩

/-- The bytes of the files, and the complaints. -/
def gather (disk : Disk) (input : List UInt8) : List String → List UInt8 × List UInt8
  | [] => ([], [])
  | file :: rest =>
    if file == "-" || file == "/dev/stdin" then
      let (out, err) := gather disk [] rest
      (input ++ out, err)
    else
      let (out, err) := gather disk input rest
      match contents disk file with
      | .ok found => (found ++ out, err)
      | .error e => (out, bytes ("cat: " ++ file ++ ": " ++ e.reason ++ "\n") ++ err)

/-- What `cat` prints, what it complains about, and its code. -/
def run (disk : Disk) (input : List UInt8) (args : List String) :
    List UInt8 × List UInt8 × Nat :=
  match readArgs {} [] args with
  | .error why => ([], bytes ("cat: " ++ why ++ "\nTry 'cat --help' for more information.\n"), 1)
  | .ok (o, files) =>
    let (found, complaints) := gather disk input (if files.isEmpty then ["-"] else files)
    (showLines o 0 false (linesOf [] found), complaints, if complaints.isEmpty then 0 else 1)

end StyleAudit.Cat
