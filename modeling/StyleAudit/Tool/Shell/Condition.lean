import StyleAudit.Disk
import StyleAudit.Text.Numeral

/-!
# Conditions in scripts

The conditions of `test`: on files, on texts and on numbers, joined by `-a` and `-o`.  A condition
holds, does not hold, or is malformed.
-/

namespace StyleAudit.Condition

/-- The value of a numeral with an optional sign. -/
def int? (s : String) : Except String Int :=
  let t := (s.toList.dropWhile (· == ' ')).reverse.dropWhile (· == ' ') |>.reverse
  let (isNegative, ds) := match t with
    | '-' :: r => (true, r)
    | '+' :: r => (false, r)
    | r => (false, r)
  match Text.natOfDigits? 10 ds with
  | some n => .ok (if isNegative then -(n : Int) else n)
  | none => .error ("Illegal number: " ++ s)

/-- A condition on one operand. -/
def unary? (disk : Disk) (op arg : String) : Option Bool :=
  match op with
  | "-n" => some (arg != "")
  | "-z" => some (arg == "")
  | "-e" => some (disk.contains ⟨arg⟩)
  | "-f" => some (disk.isFile ⟨arg⟩)
  | "-d" => some (disk.isDir ⟨arg⟩)
  | "-r" => some (disk.contains ⟨arg⟩)
  | "-w" => some (disk.contains ⟨arg⟩)
  | "-x" => some (disk.isDir ⟨arg⟩)
  | "-s" => some (match disk.lookup? ⟨arg⟩ with
    | some (.file bytes) => !bytes.isEmpty
    | some (.dir _ _) => true
    | none => false)
  | "-h" => some false
  | "-L" => some false
  | "-t" => some false
  | "-p" => some false
  | "-S" => some false
  | "-b" => some false
  | "-c" => some (arg == "/dev/null")
  | "-k" => some false
  | "-u" => some false
  | "-g" => some false
  | "-O" => some (disk.contains ⟨arg⟩)
  | "-G" => some (disk.contains ⟨arg⟩)
  | _ => none

/-- Two paths lead to the same place, and something is there. -/
def isSame (disk : Disk) (a b : String) : Bool :=
  match disk.resolve ⟨a⟩, disk.resolve ⟨b⟩ with
  | .ok (here, some _), .ok (there, some _) => here == there
  | _, _ => false

/-- The conditions on two operands.  All files are of the same age. -/
def binaries : List String :=
  ["=", "!=", "<", ">", "-eq", "-ne", "-lt", "-le", "-gt", "-ge", "-nt", "-ot", "-ef"]

/-- A condition on two operands. -/
def binary? (disk : Disk) (a op b : String) : Option (Except String Bool) :=
  let numbers (f : Int → Int → Bool) : Option (Except String Bool) := some do
    let m ← int? a
    let n ← int? b
    .ok (f m n)
  match op with
  | "=" => some (.ok (a == b))
  | "!=" => some (.ok (a != b))
  | "<" => some (.ok (a < b))
  | ">" => some (.ok (b < a))
  | "-eq" => numbers fun m n => m == n
  | "-ne" => numbers fun m n => m != n
  | "-lt" => numbers fun m n => m < n
  | "-le" => numbers fun m n => m ≤ n
  | "-gt" => numbers fun m n => n < m
  | "-ge" => numbers fun m n => n ≤ m
  | "-nt" => some (.ok false)
  | "-ot" => some (.ok false)
  | "-ef" => some (.ok (isSame disk a b))
  | _ => none

mutual

/-- Conditions of which one must hold. -/
def disjunction (disk : Disk) (fuel : Nat) (ws : List String) :
    Except String (Bool × List String) :=
  match fuel with
  | 0 => .error "argument expected"
  | fuel + 1 => do
    let (a, rest) ← conjunction disk fuel ws
    match rest with
    | "-o" :: rest =>
      let (b, rest) ← disjunction disk fuel rest
      .ok (a || b, rest)
    | rest => .ok (a, rest)

/-- Conditions that must all hold. -/
def conjunction (disk : Disk) (fuel : Nat) (ws : List String) :
    Except String (Bool × List String) :=
  match fuel with
  | 0 => .error "argument expected"
  | fuel + 1 => do
    let (a, rest) ← single disk fuel ws
    match rest with
    | "-a" :: rest =>
      let (b, rest) ← conjunction disk fuel rest
      .ok (a && b, rest)
    | rest => .ok (a, rest)

/-- A single condition. -/
def single (disk : Disk) (fuel : Nat) (ws : List String) : Except String (Bool × List String) :=
  match fuel with
  | 0 => .error "argument expected"
  | fuel + 1 =>
    let two? := match ws with
      | a :: op :: b :: rest => (binary? disk a op b).map (·, rest)
      | _ => none
    match two?, ws with
    | some (r, rest), _ => r.map (·, rest)
    | none, "!" :: rest => do
      let (a, rest) ← single disk fuel rest
      .ok (!a, rest)
    | none, "(" :: rest => do
      let (a, rest) ← disjunction disk fuel rest
      match rest with
      | ")" :: rest => .ok (a, rest)
      | _ => .error "closing paren expected"
    | none, [a] => .ok (a != "", [])
    | none, [a, b] =>
      if binaries.contains b then .error (b ++ ": argument expected")
      else match unary? disk a b with
        | some r => .ok (r, [])
        | none => .ok (a != "", [b])
    | none, a :: b :: rest =>
      match unary? disk a b with
      | some r => .ok (r, rest)
      | none => .ok (a != "", b :: rest)
    | none, [] => .ok (false, [])

end

/-- The condition that words state; no words state one that does not hold. -/
def eval (disk : Disk) (ws : List String) : Except String Bool :=
  match ws with
  | [] => .ok false
  | [a] => .ok (a != "")
  | ["!", a] => .ok (a == "")
  | ws =>
    match disjunction disk (3 * ws.length + 3) ws with
    | .error e => .error e
    | .ok (b, []) => .ok b
    | .ok (_, rest) =>
      .error ((ws[ws.length - rest.length - 1]?).getD "" ++ ": unexpected operator")

end StyleAudit.Condition
