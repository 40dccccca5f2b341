import StyleAudit.Tool.Shell.Wildcard

/-!
# Regular expressions

Expressions without groups: characters, the dot, sets between brackets, repetitions of these, and
anchors.  Matching takes the leftmost match, and of those the one in which earlier repetitions
are longest.
-/

namespace StyleAudit.Expression

/-- How often an item may occur. -/
inductive Times where
  /-- Once. -/
  | once
  /-- Any number of times. -/
  | any
  /-- At least once. -/
  | some
  /-- At most once. -/
  | optional
  deriving DecidableEq

/-- An expression: its items, and whether it is bound to the ends of a text. -/
structure Expr where
  /-- The match starts the text. -/
  atStart : Bool
  /-- The items. -/
  items : List (Wildcard.Item × Times)
  /-- The match ends the text. -/
  atEnd : Bool

/-- The repetition that a text starts with.  In extended expressions there are three marks,
otherwise the star, and the other two behind backslashes. -/
def readTimes (isExtended : Bool) : List Char → Times × List Char
  | '*' :: t => (.any, t)
  | '+' :: t => if isExtended then (.some, t) else (.once, '+' :: t)
  | '?' :: t => if isExtended then (.optional, t) else (.once, '?' :: t)
  | '\\' :: '+' :: t => if isExtended then (.once, '\\' :: '+' :: t) else (.some, t)
  | '\\' :: '?' :: t => if isExtended then (.once, '\\' :: '?' :: t) else (.optional, t)
  | t => (.once, t)

/-- Reads the items of an expression; the mark at the end tells whether it is bound to the end. -/
def readItems (isExtended : Bool) (fuel : Nat) (t : List Char) :
    List (Wildcard.Item × Times) × Bool :=
  match fuel with
  | 0 => ([], false)
  | fuel + 1 =>
    let next (item : Wildcard.Item) (rest : List Char) : List (Wildcard.Item × Times) × Bool :=
      let (times, rest) := readTimes isExtended rest
      let (items, atEnd) := readItems isExtended fuel rest
      ((item, times) :: items, atEnd)
    match t with
    | [] => ([], false)
    | ['$'] => ([], true)
    | '\\' :: 'n' :: rest => next (.char '\n') rest
    | '\\' :: 't' :: rest => next (.char '\t') rest
    | '\\' :: c :: rest => next (.char c) rest
    | '.' :: rest => next .one rest
    | '[' :: rest =>
      match Wildcard.readSet? (match rest with | '!' :: r => '\\' :: '!' :: r | r => r) with
      | some (item, rest) => next item rest
      | none => next (.char '[') rest
    | c :: rest => next (.char c) rest

/-- Reads an expression. -/
def parse (isExtended : Bool) (t : List Char) : Expr :=
  let (atStart, t) := match t with
    | '^' :: rest => (true, rest)
    | t => (false, t)
  let (items, atEnd) := readItems isExtended (t.length + 1) t
  ⟨atStart, items, atEnd⟩

/-- The length of the match at the start of a text, if there is one. -/
def matchHere (atEnd : Bool) (fuel : Nat) (items : List (Wildcard.Item × Times)) (t : List Char) :
    Option Nat :=
  match fuel with
  | 0 => none
  | fuel + 1 =>
    match items with
    | [] => if atEnd && !t.isEmpty then none else some 0
    | (item, times) :: rest =>
      let step (items : List (Wildcard.Item × Times)) : Option Nat :=
        match t with
        | c :: t => if item.accepts c then (matchHere atEnd fuel items t).map (· + 1) else none
        | [] => none
      match times with
      | .once => step rest
      | .optional => (step rest).or (matchHere atEnd fuel rest t)
      | .some => step ((item, .any) :: rest)
      | .any => (step items).or (matchHere atEnd fuel rest t)

/-- The length of the match at the start of a text. -/
def Expr.here? (e : Expr) (t : List Char) : Option Nat :=
  matchHere e.atEnd (t.length + e.items.length + 2) e.items t

/-- The text in front of the leftmost match, the match and what follows. -/
def Expr.find? (e : Expr) (before : List Char) (t : List Char) :
    Option (List Char × List Char × List Char) :=
  match e.here? t with
  | some n => some (before.reverse, t.take n, t.drop n)
  | none =>
    if e.atStart then none
    else match t with
      | c :: rest => e.find? (c :: before) rest
      | [] => none

/-- The expression matches somewhere. -/
def Expr.occurs (e : Expr) (t : List Char) : Bool := (e.find? [] t).isSome

/-- The text of a replacement: `&` stands for the match. -/
def expand (found : List Char) : List Char → List Char
  | '\\' :: 'n' :: t => '\n' :: expand found t
  | '\\' :: c :: t => c :: expand found t
  | '&' :: t => found ++ expand found t
  | c :: t => c :: expand found t
  | [] => []

/-- Replaces the leftmost match, or all of them. -/
def Expr.replace (e : Expr) (all : Bool) (new : List Char) (fuel : Nat) (t : List Char) :
    List Char :=
  match fuel with
  | 0 => t
  | fuel + 1 =>
    match e.find? [] t with
    | none => t
    | some (before, found, after) =>
      let done := before ++ expand found new
      if !all || e.atStart then done ++ after
      else if found.isEmpty then
        match after with
        | c :: rest => done ++ c :: e.replace all new fuel rest
        | [] => done
      else if after.isEmpty then done
      else done ++ e.replace all new fuel after

end StyleAudit.Expression
