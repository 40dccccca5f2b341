/-!
# Labels in ASCII

A label of a domain name that holds other characters than those of ASCII is written in ASCII: its
ASCII characters first, then a hyphen if there are any, and then one number for each of the
others, in increasing order of code points.  A number tells how far to go from the character
before, where each step is to the next place of the label, and behind its last place to the next
code point.  Numbers are written in 36 digits with the lowest digit first; a digit below its
threshold is the last one.  The thresholds follow a bias, which adapts to the size of the numbers
written so far.
-/

namespace StyleAudit.Domain.Punycode

/-! ### Digits -/

/-- A digit: a letter below 26, and a numeral from there on. -/
def digitChar (d : Nat) : Char := Char.ofNat (if d < 26 then 97 + d else 22 + d)

/-- The value of a digit. -/
def digitValue? (c : Char) : Option Nat :=
  if c.isLower then some (c.toNat - 97) else if c.isDigit then some (c.toNat - 22) else none

/-- The threshold of the digit at a position, which counts in steps of 36 from 36 on. -/
def threshold (bias position : Nat) : Nat := max 1 (min 26 (position - bias))

theorem one_le_threshold (bias position : Nat) : 1 ≤ threshold bias position :=
  Nat.le_max_left ..

/-! ### The bias -/

/-- The bias for numbers of about the size `d`. -/
def biasFor (position d : Nat) : Nat :=
  if 455 < d then biasFor (position + 36) (d / 35) else position + 36 * d / (d + 38)
termination_by d

/-- The bias behind a number.  `count` is the number of characters so far; the first number of a
label is much larger than the others. -/
def adapt (number count : Nat) (isFirst : Bool) : Nat :=
  let d := if isFirst then number / 700 else number / 2
  biasFor 0 (d + d / count)

/-- The bias before the first number. -/
def startBias : Nat := 72

/-- The first code point beyond ASCII. -/
def firstForeign : Nat := 128

/-! ### Writing -/

/-- Writes a number from a position on. -/
def writeNumber (bias position number : Nat) : List Char :=
  let t := threshold bias position
  if number < t then [digitChar number]
  else
    digitChar (t + (number - t) % (36 - t)) ::
      writeNumber bias (position + 36) ((number - t) / (36 - t))
termination_by number
decreasing_by
  have := one_le_threshold bias position
  exact Nat.lt_of_le_of_lt (Nat.div_le_self ..) (by omega)

/-- How far a label is written. -/
structure Progress where
  /-- The numbers written so far. -/
  written : List Char
  /-- The distance from the last character written. -/
  distance : Nat
  /-- The bias. -/
  bias : Nat
  /-- The number of characters written. -/
  count : Nat
  /-- No number is written yet. -/
  isFresh : Bool

/-- Passes a character of the label, in the search for those with the code point `n`. -/
def Progress.pass (n : Nat) (p : Progress) (c : Char) : Progress :=
  if c.toNat < n then { p with distance := p.distance + 1 }
  else if c.toNat == n then
    { written := p.written ++ writeNumber p.bias 36 p.distance
      distance := 0
      bias := adapt p.distance (p.count + 1) p.isFresh
      count := p.count + 1
      isFresh := false }
  else p

/-- Writes the characters with the given code points.  `n` is the code point from which the
distance counts. -/
def Progress.write (label : List Char) (n : Nat) (p : Progress) : List Nat → Progress
  | [] => p
  | m :: ms =>
    let p := { p with distance := p.distance + (m - n) * (p.count + 1) }
    let p := label.foldl (pass m) p
    write label (m + 1) { p with distance := p.distance + 1 } ms

/-- Writes a label. -/
def encode (label : List Char) : List Char :=
  let ascii := label.filter fun c => c.toNat < firstForeign
  let foreign := (label.map Char.toNat).filter fun n => firstForeign ≤ n
  let start : Progress := ⟨[], 0, startBias, ascii.length, true⟩
  ascii ++ (if ascii.isEmpty then [] else ['-']) ++
    (start.write label firstForeign (foreign.mergeSort.eraseDups)).written

/-! ### Reading -/

/-- Reads a number from a position on, where a digit counts `weight` times. -/
def readNumber (bias position weight : Nat) : List Char → Option (Nat × List Char)
  | [] => none
  | c :: rest =>
    match digitValue? c with
    | none => none
    | some d =>
      let t := threshold bias position
      if d < t then some (d * weight, rest)
      else
        (readNumber bias (position + 36) (weight * (36 - t)) rest).map fun (more, rest) =>
          (d * weight + more, rest)

/-- A number takes at least one digit. -/
theorem length_lt_of_readNumber {bias position weight number : Nat} {t rest : List Char}
    (h : readNumber bias position weight t = some (number, rest)) : rest.length < t.length := by
  induction t generalizing position weight number with
  | nil => simp [readNumber] at h
  | cons c t ih =>
    simp only [readNumber] at h
    split at h
    · cases h
    · split at h
      · simp only [Option.some.injEq, Prod.mk.injEq] at h
        simp [← h.2]
      · simp only [Option.map_eq_some_iff, Prod.mk.injEq] at h
        obtain ⟨⟨more, rest'⟩, hr, -, hrest⟩ := h
        subst hrest
        exact Nat.lt_succ_of_lt (ih hr)

/-- Puts the characters of the numbers into a label.  The last character stands at place
`place - 1` and has the code point `n`, or is still to come. -/
def readFrom (bias n place : Nat) (label : List Char) (isFresh : Bool) (t : List Char) :
    Option (List Char) :=
  if t.isEmpty then some label
  else
    match h : readNumber bias 36 1 t with
    | none => none
    | some (number, rest) =>
      let count := label.length + 1
      let m := n + (place + number) / count
      let i := (place + number) % count
      if m.isValidChar then
        readFrom (adapt number count isFresh) m (i + 1) (label.insertIdx i (Char.ofNat m)) false
          rest
      else none
termination_by t.length
decreasing_by exact length_lt_of_readNumber h

/-- Reads a label.  A hyphen that starts it divides nothing. -/
def decode? (t : List Char) : Option (List Char) :=
  let tail := (t.reverse.takeWhile (· != '-')).reverse
  let head := t.take (t.length - tail.length)
  if head.length ≤ 1 then readFrom startBias firstForeign 0 [] true t
  else readFrom startBias firstForeign 0 head.dropLast true tail

end StyleAudit.Domain.Punycode
