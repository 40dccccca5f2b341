import StyleAudit.Text.Numeral

/-!
# Arithmetic in scripts

Expressions over integers of 64 bits, with the operators and the precedence of C.  A name stands
for the value of a variable, and an assignment gives it another one; truth is one, and falsehood
is zero.  A text is evaluated while it is read, from left to right, so that the first problem that
is met is the one that is told.  Operands that do not matter are read, and not evaluated.
-/

namespace StyleAudit.Arithmetic

/-- What is wrong with an expression. -/
inductive Problem where
  /-- Something else should stand there. -/
  | expecting (what : String)
  /-- A division by zero. -/
  | divisionByZero
  /-- The value of a variable is no number. -/
  | illegal (value : String)

/-! ### Values -/

/-- The value in 64 bits with a sign. -/
def wrap (n : Int) : Int :=
  let m := n % 0x10000000000000000
  if m < 0x8000000000000000 then m else m - 0x10000000000000000

/-- Truth as a number. -/
def ofBool (b : Bool) : Int := if b then 1 else 0

/-- The digits of a value in two's complement. -/
def bits (n : Int) : UInt64 := UInt64.ofNat (n % 0x10000000000000000).toNat

/-- The value with given digits in two's complement. -/
def ofBits (b : UInt64) : Int := wrap b.toNat

/-- The value of an operation. -/
def apply (op : String) (a b : Int) : Except Problem Int :=
  match op with
  | "|" => .ok (ofBits (bits a ||| bits b))
  | "^" => .ok (ofBits (bits a ^^^ bits b))
  | "&" => .ok (ofBits (bits a &&& bits b))
  | "==" => .ok (ofBool (a == b))
  | "!=" => .ok (ofBool (a != b))
  | "<=" => .ok (ofBool (a ≤ b))
  | ">=" => .ok (ofBool (b ≤ a))
  | "<" => .ok (ofBool (a < b))
  | ">" => .ok (ofBool (b < a))
  | "<<" => .ok (ofBits (bits a <<< bits (b % 64)))
  | ">>" => .ok (a.fdiv (Nat.pow 2 (b % 64).toNat))
  | "+" => .ok (wrap (a + b))
  | "-" => .ok (wrap (a - b))
  | "*" => .ok (wrap (a * b))
  | "/" => if b == 0 then .error .divisionByZero else .ok (wrap (a.tdiv b))
  | _ => if b == 0 then .error .divisionByZero else .ok (a.tmod b)

/-- The greatest value. -/
def greatest : Int := 0x7FFFFFFFFFFFFFFF

/-- Reads a numeral: its base is shown by what it starts with, and it ends at the first character
that is no digit of that base.  A value that is too great becomes the greatest one. -/
def readNumeral (t : List Char) : Int × List Char :=
  let digits (base : Nat) (t : List Char) : List Char :=
    t.takeWhile fun c => (Text.digitValue? base c).isSome
  let (base, start) : Nat × Nat := match t with
    | '0' :: 'x' :: ds => if (digits 16 ds).isEmpty then (8, 0) else (16, 2)
    | '0' :: 'X' :: ds => if (digits 16 ds).isEmpty then (8, 0) else (16, 2)
    | '0' :: _ => (8, 0)
    | _ => (10, 0)
  let ds := digits base (t.drop start)
  let n : Int := (Text.natOfDigits? base ds).getD 0
  (min n greatest, t.drop (start + ds.length))

/-- A blank. -/
def isBlank (c : Char) : Bool := c == ' ' || c == '\t' || c == '\n'

/-- Skips blanks. -/
def skipBlanks (t : List Char) : List Char := t.dropWhile isBlank

/-- The value of a variable as a number: a numeral with an optional sign, or nothing. -/
def ofText (s : String) : Except Problem Int :=
  let t := skipBlanks s.toList
  if t.isEmpty then .ok 0
  else
    let (isNegative, ds) := match t with
      | '-' :: r => (true, r)
      | '+' :: r => (false, r)
      | r => (false, r)
    let (n, rest) := readNumeral ds
    if !(ds.head?.any Char.isDigit) || !(skipBlanks rest).isEmpty then .error (.illegal s)
    else .ok (if isNegative then -n else n)

/-! ### Reading -/

/-- How far the evaluation of a text has come. -/
structure Cursor where
  /-- What has not been read. -/
  text : List Char
  /-- The assignments that have been made, the latest first. -/
  assigned : List (String × Int) := []

/-- The operators between two operands, from those that bind least to those that bind most. -/
def levels : List (List String) :=
  [["|"], ["^"], ["&"], ["==", "!="], ["<=", ">=", "<", ">"], ["<<", ">>"], ["+", "-"],
    ["*", "/", "%"]]

/-- The operators of more than one character, the longest first. -/
def longOperators : List String :=
  ["<<=", ">>=", "||", "&&", "<<", ">>", "<=", ">=", "==", "!=", "*=", "/=", "%=", "+=", "-=", "&=",
    "^=", "|="]

/-- The operators of assignments. -/
def assigning : List String :=
  ["=", "<<=", ">>=", "*=", "/=", "%=", "+=", "-=", "&=", "^=", "|="]

/-- The operator that a text starts with, if it is one of those that are given. -/
def operator? (ops : List String) (t : List Char) : Option (String × List Char) :=
  let t := skipBlanks t
  let found := (longOperators.find? fun op => op.toList.isPrefixOf t).getD
    (String.ofList (t.take 1))
  if ops.contains found then some (found, t.drop found.length) else none

/-- The name that a text starts with. -/
def name? (t : List Char) : Option (String × List Char) :=
  let t := skipBlanks t
  let word := t.takeWhile fun c => c.isAlphanum || c == '_'
  if word.head?.any fun c => !c.isDigit then some (String.ofList word, t.drop word.length)
  else none

/-- The value of a variable. -/
def valueOf (lookup : String → Option String) (c : Cursor) (name : String) :
    Except Problem Int :=
  match c.assigned.lookup name with
  | some n => .ok n
  | none => ofText ((lookup name).getD "")

mutual

/-- The value of an assignment or a choice. -/
def assignment (lookup : String → Option String) (fuel : Nat) (isLive : Bool) (c : Cursor) :
    Except Problem (Int × Cursor) :=
  match fuel with
  | 0 => .error (.expecting "primary")
  | fuel + 1 =>
    let target? := (name? c.text).bind fun n => (operator? assigning n.2).map (n.1, ·)
    match target? with
    | none => choice lookup fuel isLive c
    | some (name, op, rest) => do
      let (n, c) ← assignment lookup fuel isLive { c with text := rest }
      if !isLive then .ok (n, c)
      else
        let n ← if op == "=" then .ok n
          else do
            let old ← valueOf lookup c name
            apply (String.ofList op.toList.dropLast) old n
        .ok (n, { c with assigned := (name, n) :: c.assigned })

/-- The value of an expression, perhaps with a condition in front. -/
def choice (lookup : String → Option String) (fuel : Nat) (isLive : Bool) (c : Cursor) :
    Except Problem (Int × Cursor) :=
  match fuel with
  | 0 => .error (.expecting "primary")
  | fuel + 1 => do
    let (n, c) ← either lookup fuel isLive c
    match operator? ["?"] c.text with
    | none => .ok (n, c)
    | some (_, rest) =>
      let (yes, c) ← assignment lookup fuel (isLive && n != 0) { c with text := rest }
      match operator? [":"] c.text with
      | none => .error (.expecting "':'")
      | some (_, rest) =>
        let (no, c) ← choice lookup fuel (isLive && n == 0) { c with text := rest }
        .ok (if n != 0 then yes else no, c)

/-- Whether one of some operands is true. -/
def either (lookup : String → Option String) (fuel : Nat) (isLive : Bool) (c : Cursor) :
    Except Problem (Int × Cursor) :=
  match fuel with
  | 0 => .error (.expecting "primary")
  | fuel + 1 => do
    let (n, c) ← both lookup fuel isLive c
    match operator? ["||"] c.text with
    | none => .ok (n, c)
    | some (_, rest) =>
      let (m, c) ← either lookup fuel (isLive && n == 0) { c with text := rest }
      .ok (ofBool (n != 0 || m != 0), c)

/-- Whether all of some operands are true. -/
def both (lookup : String → Option String) (fuel : Nat) (isLive : Bool) (c : Cursor) :
    Except Problem (Int × Cursor) :=
  match fuel with
  | 0 => .error (.expecting "primary")
  | fuel + 1 => do
    let (n, c) ← level lookup fuel isLive levels c
    match operator? ["&&"] c.text with
    | none => .ok (n, c)
    | some (_, rest) =>
      let (m, c) ← both lookup fuel (isLive && n != 0) { c with text := rest }
      .ok (ofBool (n != 0 && m != 0), c)

/-- The value of operations on a level and those that bind more. -/
def level (lookup : String → Option String) (fuel : Nat) (isLive : Bool)
    (ops : List (List String)) (c : Cursor) : Except Problem (Int × Cursor) :=
  match fuel with
  | 0 => .error (.expecting "primary")
  | fuel + 1 =>
    match ops with
    | [] => operand lookup fuel isLive c
    | here :: above => do
      let (n, c) ← level lookup fuel isLive above c
      continued lookup fuel isLive here above n c

/-- The value of further operations on a level behind a first operand. -/
def continued (lookup : String → Option String) (fuel : Nat) (isLive : Bool)
    (here : List String) (above : List (List String)) (n : Int) (c : Cursor) :
    Except Problem (Int × Cursor) :=
  match fuel with
  | 0 => .error (.expecting "primary")
  | fuel + 1 =>
    match operator? here c.text with
    | none => .ok (n, c)
    | some (op, rest) => do
      let (m, c) ← level lookup fuel isLive above { c with text := rest }
      let value ← if isLive then apply op n m else .ok m
      continued lookup fuel isLive here above value c

/-- The value of an operand. -/
def operand (lookup : String → Option String) (fuel : Nat) (isLive : Bool) (c : Cursor) :
    Except Problem (Int × Cursor) :=
  match fuel with
  | 0 => .error (.expecting "primary")
  | fuel + 1 =>
    match operator? ["-", "+", "!", "~", "("] c.text, name? c.text with
    | some ("(", rest), _ => do
      let (n, c) ← assignment lookup fuel isLive { c with text := rest }
      match operator? [")"] c.text with
      | some (_, rest) => .ok (n, { c with text := rest })
      | none => .error (.expecting "')'")
    | some (op, rest), _ => do
      let (n, c) ← operand lookup fuel isLive { c with text := rest }
      let value := match op with
        | "-" => wrap (-n)
        | "!" => ofBool (n == 0)
        | "~" => -n - 1
        | _ => n
      .ok (value, c)
    | none, some (name, rest) => do
      let n ← if isLive then valueOf lookup c name else .ok 0
      .ok (n, { c with text := rest })
    | none, none =>
      let t := skipBlanks c.text
      if t.head?.any Char.isDigit then
        let (n, rest) := readNumeral t
        .ok (n, { c with text := rest })
      else .error (.expecting "primary")

end

/-- The value of a text that is an expression as a whole, and the assignments that it makes, the
latest first. -/
def eval (lookup : String → Option String) (t : List Char) :
    Except Problem (Int × List (String × Int)) :=
  match assignment lookup (20 * (t.length + 1)) true ⟨t, []⟩ with
  | .error e => .error e
  | .ok (n, c) =>
    if (skipBlanks c.text).isEmpty then .ok (n, c.assigned) else .error (.expecting "EOF")

/-- What is wrong, in words, given the expression. -/
def Problem.message (text : String) : Problem → String
  | .expecting what => "arithmetic expression: expecting " ++ what ++ ": \"" ++ text ++ "\""
  | .divisionByZero => "arithmetic expression: division by zero: \"" ++ text ++ "\""
  | .illegal value => "Illegal number: " ++ value

end StyleAudit.Arithmetic
