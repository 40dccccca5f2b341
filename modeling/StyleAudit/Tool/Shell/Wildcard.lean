/-!
# Patterns with wildcards

A pattern matches a text as a whole.  A star stands for any text, a question mark for any
character, and a set between brackets for one of its characters; with an exclamation mark in
front, for any other character.
-/

namespace StyleAudit.Wildcard

/-- An item of a pattern. -/
inductive Item where
  /-- A character. -/
  | char (c : Char)
  /-- Any character. -/
  | one
  /-- Any text. -/
  | many
  /-- A character in one of some intervals, or in none of them. -/
  | set (isNegated : Bool) (intervals : List (Char × Char))

/-- The intervals of a set, up to its closing bracket.  A bracket in front stands for itself. -/
def readSet (fuel : Nat) (seen : List (Char × Char)) (t : List Char) :
    Option (List (Char × Char) × List Char) :=
  match fuel with
  | 0 => none
  | fuel + 1 =>
    match t with
    | [] => none
    | a :: rest =>
      if a == ']' && !seen.isEmpty then some (seen.reverse, rest)
      else match rest with
        | '-' :: b :: more =>
          if b == ']' then readSet fuel ((a, a) :: seen) rest
          else readSet fuel ((a, b) :: seen) more
        | _ => readSet fuel ((a, a) :: seen) rest

/-- A set behind its opening bracket. -/
def readSet? (t : List Char) : Option (Item × List Char) :=
  match t with
  | '!' :: rest => (readSet (rest.length + 1) [] rest).map fun r => (.set true r.1, r.2)
  | '^' :: rest => (readSet (rest.length + 1) [] rest).map fun r => (.set true r.1, r.2)
  | _ => (readSet (t.length + 1) [] t).map fun r => (.set false r.1, r.2)

/-- A pattern from characters; those that are marked stand for themselves. -/
def ofChars (fuel : Nat) (t : List (Char × Bool)) : List Item :=
  match fuel with
  | 0 => []
  | fuel + 1 =>
    match t with
    | [] => []
    | (c, isLiteral) :: rest =>
      if isLiteral then .char c :: ofChars fuel rest
      else if c == '*' then .many :: ofChars fuel rest
      else if c == '?' then .one :: ofChars fuel rest
      else if c == '[' then
        match readSet? (rest.map (·.1)) with
        | some (item, after) => item :: ofChars fuel (rest.drop (rest.length - after.length))
        | none => .char c :: ofChars fuel rest
      else .char c :: ofChars fuel rest

/-- The item matches a character. -/
def Item.accepts (i : Item) (c : Char) : Bool :=
  match i with
  | .char d => c == d
  | .one => true
  | .many => false
  | .set isNegated intervals => isNegated != intervals.any fun r => r.1 ≤ c && c ≤ r.2

/-- Some end of the text has a property. -/
def someEnd (f : List Char → Bool) : List Char → Bool
  | [] => f []
  | c :: t => f (c :: t) || someEnd f t

/-- The pattern matches the text. -/
def accepts : List Item → List Char → Bool
  | [], t => t.isEmpty
  | .many :: p, t => someEnd (accepts p) t
  | i :: p, t =>
    match t with
    | [] => false
    | c :: rest => i.accepts c && accepts p rest

/-- The text without a beginning that the pattern matches, the shortest or the longest one. -/
def dropStart (p : List Item) (longest : Bool) (t : List Char) : List Char :=
  let sizes := (List.range (t.length + 1)).filter fun n => accepts p (t.take n)
  match if longest then sizes.getLast? else sizes.head? with
  | some n => t.drop n
  | none => t

/-- The text without an end that the pattern matches, the shortest or the longest one. -/
def dropEnd (p : List Item) (longest : Bool) (t : List Char) : List Char :=
  let sizes := (List.range (t.length + 1)).filter fun n => accepts p (t.drop (t.length - n))
  match if longest then sizes.getLast? else sizes.head? with
  | some n => t.take (t.length - n)
  | none => t

end StyleAudit.Wildcard
