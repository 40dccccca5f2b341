import StyleAudit.Text.Binary64
import StyleAudit.Text.Lines
import StyleAudit.Text.Numeral

/-!
# Scalars of YAML

How a text is written as a scalar inside a block mapping.  A text with line feeds asks for a
literal block; a text that would be read back as something other than a string, and the empty
text, for single quotes; any other text for no quotes at all.  What the text asks for may not be
possible, and then the next form is taken: plain, single quotes, double quotes; literal, double
quotes.
-/

namespace StyleAudit.Yaml

/-! ### Texts that read as something else -/

/-- A text without the first of these marks that it starts with. -/
def dropSign (signs : List Char) : List Char → List Char
  | c :: t => if signs.contains c then t else c :: t
  | [] => []

/-- Several digits of which the first is zero. -/
def hasLeadingZero (t : List Char) : Bool :=
  let t := dropSign ['+', '-'] t
  1 < t.length && t.head? == some '0' && t.all Char.isDigit

/-- The digits of a number in base 16, 8 or 2, behind its mark. -/
def based? (t : List Char) : Option Nat :=
  match t with
  | '0' :: 'x' :: rest => Text.natOfDigits? 16 rest
  | '0' :: 'o' :: rest => Text.natOfDigits? 8 rest
  | '0' :: 'b' :: rest => Text.natOfDigits? 2 rest
  | _ => none

/-- An integer of at most 128 bits, with an optional sign. -/
def isInteger (t : List Char) : Bool :=
  let value? (t : List Char) :=
    (based? t).or (if hasLeadingZero t then none else Text.natOfDigits? 10 t)
  match t with
  | '-' :: rest => (value? rest).any (· ≤ Nat.pow 2 127)
  | '+' :: rest => (value? rest).any (· < Nat.pow 2 128)
  | _ => (value? t).any (· < Nat.pow 2 128)

/-- The exponent of a decimal number; nothing counts as zero. -/
def exponent? (t : List Char) : Option Int :=
  match t with
  | [] => some 0
  | c :: rest =>
    if c == 'e' || c == 'E' then
      match rest with
      | '-' :: ds => (Text.natOfDigits? 10 ds).map fun n => -(n : Int)
      | '+' :: ds => (Text.natOfDigits? 10 ds).map fun n => (n : Int)
      | ds => (Text.natOfDigits? 10 ds).map fun n => (n : Int)
    else none

/-- A finite decimal number with optional point and exponent. -/
def isDecimal (t : List Char) : Bool :=
  let whole := t.takeWhile Char.isDigit
  let rest := t.dropWhile Char.isDigit
  let (part, rest) :=
    match rest with
    | '.' :: r => (r.takeWhile Char.isDigit, r.dropWhile Char.isDigit)
    | _ => ([], rest)
  if whole.isEmpty && part.isEmpty then false
  else match exponent? rest with
    | some e => !Binary64.overflows ⟨(Text.natOfDigits? 10 (whole ++ part)).getD 0, e - part.length⟩
    | none => false

/-- A number with point or exponent, or a name of infinity or of no number. -/
def isFloat (t : List Char) : Bool :=
  let s := String.ofList t
  let unsigned := dropSign ['+'] t
  let unsignedName := String.ofList unsigned
  if t.head? == some '+' && (unsigned.head?.any fun c => c == '+' || c == '-') then false
  else [".inf", ".Inf", ".INF"].contains unsignedName ||
    ["-.inf", "-.Inf", "-.INF", ".nan", ".NaN", ".NAN"].contains s ||
    isDecimal (dropSign ['-', '+'] unsigned)

/-- The text would be read as something other than a string, or is a number in all but its
leading zeros. -/
def readsAsOther (t : List Char) : Bool :=
  t.isEmpty ||
    ["null", "Null", "NULL", "~", "true", "True", "TRUE", "false", "False", "FALSE"].contains
      (String.ofList t) ||
    isInteger t || hasLeadingZero t || isFloat t

/-! ### What the characters of a text allow -/

/-- A line break. -/
def isBreak (c : Char) : Bool :=
  c == '\r' || c == '\n' || c.toNat == 0x85 || c.toNat == 0x2028 || c.toNat == 0x2029

/-- A space, a tab, a line break or the end. -/
def isGap : Option Char → Bool
  | none => true
  | some c => c == ' ' || c == '\t' || isBreak c || c.toNat == 0

/-- A character that may be written as it stands. -/
def isShown (c : Char) : Bool :=
  let n := c.toNat
  n == 0x0A || (0x20 ≤ n && n ≤ 0x7E) || (0xA0 ≤ n && n ≤ 0xFFFD && n != 0xFEFF) || 0x10000 ≤ n

/-- A first character that a plain text may not have. -/
def isOpening (c : Char) (next : Option Char) : Bool :=
  "#,[]\x7b\x7d&*!|>'\"%@`".toList.contains c ||
    ((c == '?' || c == ':' || c == '-') && isGap next)

/-- Inside the text there is a colon before a gap, or a number sign behind one. -/
def hasIndicatorAfter (prev : Char) : List Char → Bool
  | [] => false
  | c :: t =>
    (c == ':' && isGap t.head?) || (c == '#' && isGap (some prev)) || hasIndicatorAfter c t

/-- The text has something that means more than text to a reader. -/
def hasIndicator : List Char → Bool
  | [] => false
  | c :: t =>
    ['-', '-', '-'].isPrefixOf (c :: t) || ['.', '.', '.'].isPrefixOf (c :: t) ||
      isOpening c t.head? || hasIndicatorAfter c t

/-- A character of the first class stands directly before one of the second. -/
def hasPair (p q : Char → Bool) : List Char → Bool
  | a :: b :: t => (p a && q b) || hasPair p q (b :: t)
  | _ => false

/-- A space. -/
def isSpace (c : Char) : Bool := c == ' '

/-- The text has what only double quotes can hold. -/
def needsEscapes (t : List Char) : Bool := hasPair isSpace isBreak t || t.any (!isShown ·)

/-- The text may be written without quotes. -/
def allowsPlain (t : List Char) : Bool :=
  !(t.head?.any isSpace) && !(t.getLast?.any isSpace) && !t.any isBreak && !needsEscapes t &&
    !hasIndicator t

/-- The text may be written in single quotes. -/
def allowsSingle (t : List Char) : Bool := !hasPair isBreak isSpace t && !needsEscapes t

/-- The text may be written as a literal block. -/
def allowsLiteral (t : List Char) : Bool := !(t.getLast?.any isSpace) && !needsEscapes t

/-! ### Writing -/

/-- The ways to write a scalar. -/
inductive Style where
  /-- As it stands. -/
  | plain
  /-- In single quotes. -/
  | single
  /-- In double quotes. -/
  | double
  /-- As a literal block. -/
  | literal
  deriving DecidableEq

/-- The way in which a text is written. -/
def styleOf (t : List Char) : Style :=
  if t.contains '\n' then if allowsLiteral t then .literal else .double
  else if !readsAsOther t && allowsPlain t then .plain
  else if allowsSingle t then .single
  else .double

/-- Hexadecimal digits in capital letters, filled up with zeros. -/
def hexUpper (width n : Nat) : List Char :=
  let digits := (Nat.toDigits 16 n).map Char.toUpper
  List.replicate (width - digits.length) '0' ++ digits

/-- A character inside double quotes. -/
def doubleChar (c : Char) : List Char :=
  let n := c.toNat
  if c == '"' then ['\\', '"']
  else if c == '\\' then ['\\', '\\']
  else if isShown c && !isBreak c then [c]
  else match n with
    | 0x00 => ['\\', '0']
    | 0x07 => ['\\', 'a']
    | 0x08 => ['\\', 'b']
    | 0x09 => ['\\', 't']
    | 0x0A => ['\\', 'n']
    | 0x0B => ['\\', 'v']
    | 0x0C => ['\\', 'f']
    | 0x0D => ['\\', 'r']
    | 0x1B => ['\\', 'e']
    | 0x85 => ['\\', 'N']
    | 0x2028 => ['\\', 'L']
    | 0x2029 => ['\\', 'P']
    | _ =>
      if n ≤ 0xFF then ['\\', 'x'] ++ hexUpper 2 n
      else if n ≤ 0xFFFF then ['\\', 'u'] ++ hexUpper 4 n
      else ['\\', 'U'] ++ hexUpper 8 n

/-- Text over several lines: behind line breaks, the next character is indented.  The closing
quote of a quoted text counts as such a character. -/
def writeLines (indent : Nat) (char : Char → List Char) (afterBreak : Bool) :
    List Char → List Char
  | [] => []
  | c :: t =>
    if isBreak c then c :: writeLines indent char true t
    else (if afterBreak then List.replicate indent ' ' else []) ++ char c ++
      writeLines indent char false t

/-- A quote inside single quotes is doubled. -/
def singleChar (c : Char) : List Char := if c == '\'' then ['\'', '\''] else [c]

/-- The marks behind the bar of a literal block: an explicit indentation if the text starts with
a space or a line break, and what happens to the line breaks at its end. -/
def literalMarks (t : List Char) : List Char :=
  (if t.head?.any (fun c => isSpace c || isBreak c) then ['2'] else []) ++
    match t.reverse with
    | [] => ['-']
    | [c] => if isBreak c then ['+'] else ['-']
    | c :: d :: _ => if !isBreak c then ['-'] else if isBreak d then ['+'] else []

/-- A text as the value of a key, up to the end of its line.  `indent` is the indentation of
lines that continue the value. -/
def scalar (indent : Nat) (s : String) : List Char :=
  let t := s.toList
  match styleOf t with
  | .plain => t ++ ['\n']
  | .single =>
    '\'' :: writeLines indent singleChar false t ++
      (if t.getLast?.any isBreak then List.replicate indent ' ' else []) ++ ['\'', '\n']
  | .double => '"' :: t.flatMap doubleChar ++ ['"', '\n']
  | .literal =>
    '|' :: literalMarks t ++ '\n' :: writeLines indent (fun c => [c]) true t ++
      (if t.getLast?.any isBreak then [] else ['\n'])

end StyleAudit.Yaml
