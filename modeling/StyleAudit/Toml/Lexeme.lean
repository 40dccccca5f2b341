import StyleAudit.Text.Numeral
import StyleAudit.Toml.Value

/-!
# Lexemes of TOML

Readers for the smallest parts of a document: blanks, comments, keys, strings, numbers, dates.
Each takes a text and returns what it read and the rest, or nothing if the text does not start
that way.
-/

namespace StyleAudit.Toml

/-- A reader of some part of a text. -/
abbrev Reader (α : Type) := List Char → Option (α × List Char)

/-! ### Blanks and comments -/

/-- A space or tab. -/
def isBlank (c : Char) : Bool := c == ' ' || c == '\t'

/-- Skips spaces and tabs. -/
def skipBlanks (t : List Char) : List Char := t.dropWhile isBlank

/-- A character that may stand in a comment. -/
def isCommentChar (c : Char) : Bool := c == '\t' || (0x20 ≤ c.toNat && c.toNat != 0x7F)

/-- Skips a comment, if there is one. -/
def skipComment : List Char → List Char
  | '#' :: t => t.dropWhile isCommentChar
  | t => t

/-- Reads the end of a line. -/
def readBreak : List Char → Option (List Char)
  | '\n' :: t => some t
  | '\r' :: '\n' :: t => some t
  | _ => none

/-- Skips blanks, comments and ends of lines. -/
def skipGap (fuel : Nat) (t : List Char) : List Char :=
  match fuel with
  | 0 => t
  | fuel + 1 =>
    let rest := skipComment (skipBlanks t)
    match readBreak rest with
    | some rest => skipGap fuel rest
    | none => rest

/-! ### Strings -/

/-- The character with a code point, if there is one. -/
def charOf? (n : Nat) : Option Char :=
  if n < 0xD800 || (0xE000 ≤ n && n < 0x110000) then some (Char.ofNat n) else none

/-- A code point in a given number of hexadecimal digits. -/
def readCodePoint (count : Nat) : Reader Char := fun t =>
  if t.length < count then none
  else ((Text.natOfDigits? 16 (t.take count)).bind charOf?).map (·, t.drop count)

/-- The character behind a backslash. -/
def readEscape : Reader Char
  | 'b' :: t => some (Char.ofNat 8, t)
  | 't' :: t => some ('\t', t)
  | 'n' :: t => some ('\n', t)
  | 'f' :: t => some (Char.ofNat 12, t)
  | 'r' :: t => some ('\r', t)
  | '"' :: t => some ('"', t)
  | '\\' :: t => some ('\\', t)
  | 'u' :: t => readCodePoint 4 t
  | 'U' :: t => readCodePoint 8 t
  | _ => none

/-- A character that may stand in a string on one line. -/
def isStringChar (c : Char) : Bool := c == '\t' || (0x20 ≤ c.toNat && c.toNat != 0x7F)

/-- Reads the inside of a string in double quotes, up to its end. -/
def readBasic (fuel : Nat) (seen : List Char) (t : List Char) : Option (List Char × List Char) :=
  match fuel with
  | 0 => none
  | fuel + 1 =>
    match t with
    | '"' :: rest => some (seen.reverse, rest)
    | '\\' :: rest =>
      match readEscape rest with
      | some (c, rest) => readBasic fuel (c :: seen) rest
      | none => none
    | c :: rest => if isStringChar c then readBasic fuel (c :: seen) rest else none
    | [] => none

/-- Reads the inside of a string in single quotes, up to its end. -/
def readLiteral (t : List Char) : Option (List Char × List Char) :=
  let body := t.takeWhile fun c => c != '\'' && isStringChar c
  match t.drop body.length with
  | '\'' :: rest => some (body, rest)
  | _ => none

/-- Skips spaces, tabs and ends of lines. -/
def skipBreaks (fuel : Nat) (t : List Char) : List Char :=
  match fuel with
  | 0 => t
  | fuel + 1 =>
    let t := skipBlanks t
    match readBreak t with
    | some rest => skipBreaks fuel rest
    | none => t

/-- The end of a string over several lines.  Up to two quotes directly before the closing ones
belong to the string. -/
def readTripleEnd (quote : Char) (t : List Char) : Option (List Char × List Char) :=
  let run := (t.takeWhile (· == quote)).length
  if run < 3 then none
  else
    let inner := min (run - 3) 2
    some (List.replicate inner quote, t.drop (inner + 3))

/-- Reads the inside of a string in triple quotes.  `escapes` tells whether a backslash has a
meaning. -/
def readTriple (fuel : Nat) (quote : Char) (escapes : Bool) (seen : List Char) (t : List Char) :
    Option (List Char × List Char) :=
  match fuel with
  | 0 => none
  | fuel + 1 =>
    match readTripleEnd quote t with
    | some (inner, rest) => some (seen.reverse ++ inner, rest)
    | none =>
      match readBreak t with
      | some rest => readTriple fuel quote escapes ('\n' :: seen) rest
      | none =>
        match t with
        | [] => none
        | c :: rest =>
          if escapes && c == '\\' then
            match readBreak (skipBlanks rest) with
            | some next => readTriple fuel quote escapes seen (skipBreaks next.length next)
            | none =>
              match readEscape rest with
              | some (c, rest) => readTriple fuel quote escapes (c :: seen) rest
              | none => none
          else if isStringChar c then readTriple fuel quote escapes (c :: seen) rest
          else none

/-- Skips the end of a line directly behind opening triple quotes. -/
def skipFirstBreak (t : List Char) : List Char := (readBreak t).getD t

/-- A string of any of the four kinds. -/
def readString : Reader String := fun t =>
  let text := fun (r : List Char × List Char) => (String.ofList r.1, r.2)
  match t with
  | '"' :: '"' :: '"' :: rest =>
    (readTriple t.length '"' true [] (skipFirstBreak rest)).map text
  | '\'' :: '\'' :: '\'' :: rest =>
    (readTriple t.length '\'' false [] (skipFirstBreak rest)).map text
  | '"' :: rest => (readBasic t.length [] rest).map text
  | '\'' :: rest => (readLiteral rest).map text
  | _ => none

/-! ### Keys -/

/-- A character of a key without quotes. -/
def isKeyChar (c : Char) : Bool := c.isAlphanum || c == '_' || c == '-'

/-- A key without dots. -/
def readSimpleKey : Reader String := fun t =>
  match t with
  | '"' :: rest => (readBasic t.length [] rest).map fun r => (String.ofList r.1, r.2)
  | '\'' :: rest => (readLiteral rest).map fun r => (String.ofList r.1, r.2)
  | t =>
    let key := t.takeWhile isKeyChar
    if key.isEmpty then none else some (String.ofList key, t.drop key.length)

/-- Keys with dots between them. -/
def readKeys (fuel : Nat) (t : List Char) : Option (List String × List Char) :=
  match readSimpleKey (skipBlanks t) with
  | none => none
  | some (key, rest) =>
    match fuel, skipBlanks rest with
    | fuel + 1, '.' :: rest => (readKeys fuel rest).map fun r => (key :: r.1, r.2)
    | _, rest => some ([key], rest)

/-- At most so many keys stand between dots. -/
def maxKeys : Nat := 79

/-- The keys before the last dot, and the last key. -/
def readDottedKey : Reader (List String × String) := fun t =>
  match readKeys t.length t with
  | some (keys, rest) =>
    if maxKeys < keys.length then none
    else keys.getLast?.map fun key => ((keys.dropLast, key), rest)
  | none => none

/-! ### Numbers -/

/-- Digits in which single underscores may stand between two digits. -/
def readDigits (isDigit : Char → Bool) (seen : List Char) : List Char → List Char × List Char
  | '_' :: c :: t =>
    if isDigit c && !seen.isEmpty then readDigits isDigit (c :: seen) t
    else (seen.reverse, '_' :: c :: t)
  | c :: t => if isDigit c then readDigits isDigit (c :: seen) t else (seen.reverse, c :: t)
  | [] => (seen.reverse, [])

/-- The value of digits in a base, zero if there are none. -/
def natOf (base : Nat) (ds : List Char) : Nat := (Text.natOfDigits? base ds).getD 0

/-- An integer of 64 bits. -/
def wordOf? (n : Int) : Option Value :=
  if -0x8000000000000000 ≤ n && n < 0x8000000000000000 then some (.int n) else none

/-- An integer in base 16, 8 or 2, behind its mark. -/
def readBased (base : Nat) (isDigit : Char → Bool) : Reader Value := fun t =>
  let (ds, rest) := readDigits isDigit [] t
  if ds.isEmpty then none else (wordOf? (natOf base ds)).map (·, rest)

/-- A hexadecimal digit. -/
def isHexDigit (c : Char) : Bool :=
  c.isDigit || ('a' ≤ c && c ≤ 'f') || ('A' ≤ c && c ≤ 'F')

/-- The exponent of a number, if there is one. -/
def readExponent (t : List Char) : Option (Option Int × List Char) :=
  match t with
  | c :: rest =>
    if c == 'e' || c == 'E' then
      let (negative, rest) := match rest with
        | '-' :: r => (true, r)
        | '+' :: r => (false, r)
        | r => (false, r)
      let (ds, rest) := readDigits Char.isDigit [] rest
      if ds.isEmpty then none
      else
        let n : Int := natOf 10 ds
        some (some (if negative then -n else n), rest)
    else some (none, t)
  | [] => some (none, [])

/-- The digits behind the point of a number, if there is one. -/
def readFraction (t : List Char) : Option (Option (List Char) × List Char) :=
  match t with
  | '.' :: rest =>
    let (ds, rest) := readDigits Char.isDigit [] rest
    if ds.isEmpty then none else some (some ds, rest)
  | t => some (none, t)

/-- A decimal integer or floating-point number, behind its sign. -/
def readDecimal (negative : Bool) : Reader Value := fun t =>
  let (whole, rest) := readDigits Char.isDigit [] t
  if whole.isEmpty || (1 < whole.length && whole.head? == some '0') then none
  else match readFraction rest with
    | none => none
    | some (part, rest) =>
      match readExponent rest with
      | none => none
      | some (none, rest) =>
        match part with
        | none =>
          let n : Int := natOf 10 whole
          (wordOf? (if negative then -n else n)).map (·, rest)
        | some ds => finish whole ds 0 rest
      | some (some e, rest) => finish whole (part.getD []) e rest
where
  /-- A floating-point number; only a negative one may be too large. -/
  finish (whole part : List Char) (e : Int) (rest : List Char) : Option (Value × List Char) :=
    let d : Binary64.Decimal := ⟨natOf 10 (whole ++ part), e - part.length⟩
    if !negative && Binary64.overflows d then none
    else some (.float (.finite negative d), rest)

/-- A number behind its sign, or infinity or no number by name. -/
def readSigned (negative : Bool) : Reader Value
  | 'i' :: 'n' :: 'f' :: t => some (.float (.infinite negative), t)
  | 'n' :: 'a' :: 'n' :: t => some (.float .nan, t)
  | t => readDecimal negative t

/-- A number. -/
def readNumber : Reader Value
  | '0' :: 'x' :: t => readBased 16 isHexDigit t
  | '0' :: 'o' :: t => readBased 8 (fun c => '0' ≤ c && c ≤ '7') t
  | '0' :: 'b' :: t => readBased 2 (fun c => c == '0' || c == '1') t
  | '+' :: t => readSigned false t
  | '-' :: t => readSigned true t
  | t => readSigned false t

/-! ### Dates and times -/

/-- A number in exactly so many digits. -/
def readFixed (count : Nat) : Reader Nat := fun t =>
  let ds := t.take count
  if ds.length == count && ds.all Char.isDigit then some (natOf 10 ds, t.drop count) else none

/-- Reads a character. -/
def readChar (c : Char) : List Char → Option (List Char)
  | d :: t => if c == d then some t else none
  | [] => none

/-- The number of days of a month. -/
def daysIn (year month : Nat) : Nat :=
  if month == 2 then
    if year % 4 == 0 && (year % 100 != 0 || year % 400 == 0) then 29 else 28
  else if month == 4 || month == 6 || month == 9 || month == 11 then 30
  else 31

/-- A day of the calendar. -/
def readDay (t : List Char) : Option (List Char) := do
  let (year, t) ← readFixed 4 t
  let t ← readChar '-' t
  let (month, t) ← readFixed 2 t
  let t ← readChar '-' t
  let (day, t) ← readFixed 2 t
  if 1 ≤ month && month ≤ 12 && 1 ≤ day && day ≤ daysIn year month then some t else none

/-- A time of day. -/
def readTime (t : List Char) : Option (List Char) := do
  let (hour, t) ← readFixed 2 t
  let t ← readChar ':' t
  let (minute, t) ← readFixed 2 t
  let t ← readChar ':' t
  let (second, t) ← readFixed 2 t
  if 24 ≤ hour || 60 ≤ minute || 61 ≤ second then none
  else match t with
    | '.' :: rest =>
      let part := rest.takeWhile Char.isDigit
      if part.isEmpty then none else some (rest.drop part.length)
    | t => some t

/-- The distance from universal time. -/
def readOffset (t : List Char) : Option (List Char) :=
  match t with
  | 'Z' :: rest => some rest
  | 'z' :: rest => some rest
  | c :: rest =>
    if c == '+' || c == '-' then do
      let (hour, rest) ← readFixed 2 rest
      let rest ← readChar ':' rest
      let (minute, rest) ← readFixed 2 rest
      if hour < 24 && minute < 60 then some rest else none
    else none
  | [] => none

/-- A time with its distance from universal time behind a day; without a time only the day is
read. -/
def readDayTime (t : List Char) : List Char :=
  match t with
  | c :: rest =>
    if c == 'T' || c == 't' || c == ' ' then
      match readTime rest with
      | some rest => (readOffset rest).getD rest
      | none => t
    else t
  | [] => []

/-- The text starts like a day of the calendar. -/
def looksLikeDay (t : List Char) : Bool :=
  (readFixed 4 t).any fun r => r.2.head? == some '-'

/-- The text starts like a time of day. -/
def looksLikeTime (t : List Char) : Bool :=
  (readFixed 2 t).any fun r => r.2.head? == some ':'

/-- A date, a time or both. -/
def readDate : Reader Value := fun t =>
  let rest := if looksLikeDay t then (readDay t).map readDayTime else readTime t
  rest.map fun rest =>
    (.date (String.ofList (t.take (t.length - rest.length))), rest)

end StyleAudit.Toml
