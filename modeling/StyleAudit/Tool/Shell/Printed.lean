import StyleAudit.Text.Numeral
import StyleAudit.Text.Utf8

/-!
# Text with escapes and directives

What `echo` and `printf` print.  A backslash starts an escape, in formats a percent sign starts a
directive, and a format is used again until all arguments are used up.
-/

namespace StyleAudit.Printed

/-- The bytes of a text. -/
def bytes (s : String) : List UInt8 := Utf8.encode s.toList

/-- An octal digit. -/
def isOctal (c : Char) : Bool := '0' ≤ c && c ≤ '7'

/-- The byte that stands behind a backslash for one of the letters. -/
def letterByte? (c : Char) : Option UInt8 :=
  match c with
  | '\\' => some 0x5C
  | 'a' => some 0x07
  | 'b' => some 0x08
  | 'f' => some 0x0C
  | 'n' => some 0x0A
  | 'r' => some 0x0D
  | 't' => some 0x09
  | 'v' => some 0x0B
  | _ => none

/-- The byte of an escape, given what stands behind the backslash, and the rest.  A backslash that
starts no escape stands for itself. -/
def readEscape (t : List Char) : UInt8 × List Char :=
  match t with
  | [] => (0x5C, [])
  | c :: rest =>
    match letterByte? c with
    | some b => (b, rest)
    | none =>
      if isOctal c then
        let digits := (t.take 3).takeWhile isOctal
        (UInt8.ofNat ((Text.natOfDigits? 8 digits).getD 0), t.drop digits.length)
      else (0x5C, t)

/-- The bytes of a text with escapes, in which octal digits may have a further zero in front, and
whether `\c` has stopped it. -/
def unescape (fuel : Nat) (t : List Char) : List UInt8 × Bool :=
  match fuel with
  | 0 => ([], false)
  | fuel + 1 =>
    match t with
    | [] => ([], false)
    | '\\' :: 'c' :: _ => ([], true)
    | '\\' :: rest =>
      let rest := match rest with
        | '0' :: d :: more => if isOctal d then d :: more else rest
        | _ => rest
      let (b, rest) := readEscape rest
      let (bs, isStopped) := unescape fuel rest
      (b :: bs, isStopped)
    | c :: rest =>
      let (bs, isStopped) := unescape fuel rest
      (Utf8.encodeChar c ++ bs, isStopped)

/-- What `echo` prints: its arguments with spaces between them and a line feed at the end.  The
option `-n` leaves out the line feed. -/
def echo (args : List String) : List UInt8 :=
  let (hasBreak, args) := match args with
    | "-n" :: rest => (false, rest)
    | args => (true, args)
  let t := (" ".intercalate args).toList
  let (bs, isStopped) := unescape (t.length + 1) t
  bs ++ (if hasBreak && !isStopped then [0x0A] else [])

/-- What `echo` prints as a tool of its own: escapes count only behind `-e`. -/
def echoTool (isEscaped hasBreak : Bool) : List String → List UInt8
  | "-n" :: rest => echoTool isEscaped false rest
  | "-e" :: rest => echoTool true hasBreak rest
  | "-E" :: rest => echoTool false hasBreak rest
  | args =>
    let t := (" ".intercalate args).toList
    let (bs, isStopped) := if isEscaped then unescape (t.length + 1) t else (Utf8.encode t, false)
    bs ++ (if hasBreak && !isStopped then [0x0A] else [])

/-! ### Directives -/

/-- How an argument is laid out. -/
structure Layout where
  /-- It stands at the left. -/
  left : Bool := false
  /-- Zeros fill a number up. -/
  zeros : Bool := false
  /-- A plus sign stands before a number. -/
  plus : Bool := false
  /-- A space stands in place of a sign. -/
  space : Bool := false
  /-- The base of a number is shown. -/
  alternate : Bool := false
  /-- The least number of bytes. -/
  width : Nat := 0
  /-- The greatest number of bytes of a text, or the least number of digits. -/
  precision : Option Nat := none

/-- Fills text up to the width. -/
def Layout.fill (l : Layout) (bs : List UInt8) : List UInt8 :=
  let blanks := List.replicate (l.width - bs.length) (0x20 : UInt8)
  if l.left then bs ++ blanks else blanks ++ bs

/-- Lays out a text. -/
def Layout.text (l : Layout) (bs : List UInt8) : List UInt8 :=
  l.fill (match l.precision with | some n => bs.take n | none => bs)

/-- Lays out the digits of a number with what stands before them. -/
def Layout.number (l : Layout) (sign : String) (digits : String) : List UInt8 :=
  let least := match l.precision with
    | some n => n
    | none => if l.zeros && !l.left then l.width - sign.length else 0
  let zeros := String.ofList (List.replicate (least - digits.length) '0')
  l.fill (bytes (sign ++ zeros ++ digits))

/-- Reads the marks of a layout. -/
def readMarks (l : Layout) : List Char → Layout × List Char
  | '-' :: t => readMarks { l with left := true } t
  | '0' :: t => readMarks { l with zeros := true } t
  | '+' :: t => readMarks { l with plus := true } t
  | ' ' :: t => readMarks { l with space := true } t
  | '#' :: t => readMarks { l with alternate := true } t
  | t => (l, t)

/-- The value of digits, zero if there are none. -/
def natOf (base : Nat) (ds : List Char) : Nat := (Text.natOfDigits? base ds).getD 0

/-- The value of an argument as a number, and what is wrong with it. -/
def numberOf (arg : String) : Int × Option String :=
  let t := arg.toList.dropWhile fun c => c == ' ' || c == '\t' || c == '\n'
  match t with
  | '\'' :: c :: _ => (c.toNat, none)
  | '"' :: c :: _ => (c.toNat, none)
  | _ =>
    let (isNegative, t) := match t with
      | '-' :: r => (true, r)
      | '+' :: r => (false, r)
      | r => (false, r)
    let (base, ds) : Nat × List Char := match t with
      | '0' :: 'x' :: r => (16, r)
      | '0' :: 'X' :: r => (16, r)
      | '0' :: r => (8, '0' :: r)
      | r => (10, r)
    let digits := ds.takeWhile fun c => (Text.digitValue? base c).isSome
    let n : Int := natOf base digits
    let wrong :=
      if digits.isEmpty then
        if arg.isEmpty then none else some (arg ++ ": expected numeric value")
      else if digits.length < ds.length then some (arg ++ ": not completely converted")
      else none
    (if isNegative then -n else n, wrong)

/-- A number in capital hexadecimal digits. -/
def upper (s : String) : String := String.ofList (s.toList.map Char.toUpper)

/-- A number laid out by a directive. -/
def Layout.integer (l : Layout) (directive : Char) (n : Int) : List UInt8 :=
  let unsigned : Nat := (n % 0x10000000000000000).toNat
  let digits (base : Nat) := String.ofList (Nat.toDigits base unsigned)
  match directive with
  | 'o' => l.number (if l.alternate then "0" else "") (digits 8)
  | 'x' => l.number (if l.alternate && n != 0 then "0x" else "") (digits 16)
  | 'X' => l.number (if l.alternate && n != 0 then "0X" else "") (upper (digits 16))
  | 'u' => l.number "" (digits 10)
  | _ =>
    let sign := if n < 0 then "-" else if l.plus then "+" else if l.space then " " else ""
    l.number sign (toString n.natAbs)

/-- What a pass over a format leaves. -/
structure Pass where
  /-- What it prints. -/
  out : List UInt8 := []
  /-- What is wrong. -/
  errors : List String := []
  /-- The arguments that are left. -/
  args : List String
  /-- Nothing more is printed. -/
  isStopped : Bool := false
  /-- The format is malformed. -/
  isBroken : Bool := false

/-- Puts bytes in front of what a pass prints. -/
def Pass.put (bs : List UInt8) (p : Pass) : Pass := { p with out := bs ++ p.out }

/-- Puts an error in front of those of a pass. -/
def Pass.blame (e : Option String) (p : Pass) : Pass := { p with errors := e.toList ++ p.errors }

/-- One pass over a format. -/
def pass (fuel : Nat) (args : List String) (t : List Char) : Pass :=
  match fuel with
  | 0 => { args }
  | fuel + 1 =>
    match t with
    | [] => { args }
    | '\\' :: rest =>
      let (b, rest) := readEscape rest
      (pass fuel args rest).put [b]
    | '%' :: '%' :: rest => (pass fuel args rest).put [0x25]
    | '%' :: rest =>
      let (l, rest) := readMarks {} rest
      let (width, rest, args) : Nat × List Char × List String := match rest with
        | '*' :: r => ((numberOf (args.headD "0")).1.toNat, r, args.drop 1)
        | r => (natOf 10 (r.takeWhile Char.isDigit), r.dropWhile Char.isDigit, args)
      let (precision, rest) : Option Nat × List Char := match rest with
        | '.' :: r => (some (natOf 10 (r.takeWhile Char.isDigit)), r.dropWhile Char.isDigit)
        | r => (none, r)
      let l := { l with width, precision }
      let arg := args.headD ""
      match rest with
      | 's' :: rest => (pass fuel (args.drop 1) rest).put (l.text (bytes arg))
      | 'c' :: rest => (pass fuel (args.drop 1) rest).put (l.text (Utf8.encode (arg.toList.take 1)))
      | 'b' :: rest =>
        let (bs, isStopped) := unescape (arg.length + 1) arg.toList
        if isStopped then { out := l.text bs, args := args.drop 1, isStopped := true }
        else (pass fuel (args.drop 1) rest).put (l.text bs)
      | c :: rest =>
        if "diouxX".toList.contains c then
          let (n, wrong) := numberOf arg
          ((pass fuel (args.drop 1) rest).put (l.integer c n)).blame wrong
        else
          { args
            isStopped := true
            isBroken := true
            errors := ["%" ++ String.ofList [c] ++ ": invalid directive"] }
      | [] =>
        { args
          isStopped := true
          isBroken := true
          errors := ["missing format character"] }
    | c :: rest => (pass fuel args rest).put (Utf8.encodeChar c)

/-- What `printf` prints, and what is wrong.  A format that takes no arguments is used once. -/
def printf (fuel : Nat) (args : List String) (t : List Char) : Pass :=
  let p := pass (t.length + 1) args t
  match fuel with
  | 0 => p
  | fuel + 1 =>
    if p.isStopped || p.args.isEmpty || p.args.length == args.length then p
    else
      let more := printf fuel p.args t
      { more with out := p.out ++ more.out, errors := p.errors ++ more.errors }

end StyleAudit.Printed
