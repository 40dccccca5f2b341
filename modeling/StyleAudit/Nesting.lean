import StyleAudit.Source.Language
import StyleAudit.Text.Blank

/-!
# Nesting

An estimate, line by line, of whether the text is inside a function body and how deep.  It looks
at parentheses, braces and control keywords and does not tokenise: a keyword counts wherever its
letters stand, comments over several lines are not recognised, and a brace counts on the way in
only on a line that opens a function or carries a keyword, but always on the way out.
-/

namespace StyleAudit

/-- Control keywords, in the order in which a line is searched for them. -/
def Language.keywords : Language → List String
  | .perl => ["if", "elsif", "else", "unless", "for", "while", "do"]
  | _ => ["if", "else", "for", "while", "do", "switch", "case", "default"]

/-- What the estimate says about a line. -/
inductive LineEvent where
  /-- Blank or a comment. -/
  | skipped
  /-- Outside function bodies. -/
  | outside
  /-- A function body opens. -/
  | functionOpened
  /-- A line with a control keyword, and the depth before it. -/
  | keyword (word : String) (depth : Nat)
  /-- Any other line of a body, and the depth after it. -/
  | body (depth : Nat)
  deriving DecidableEq

/-- The state of the estimate. -/
structure Nesting where
  /-- The keywords it looks for. -/
  keywords : List String
  /-- The depth. -/
  depth : Nat := 0
  /-- Whether it is inside a function body. -/
  inside : Bool := false
  deriving DecidableEq

namespace Nesting

/-- The state before the first line. -/
def start (language : Language) : Nesting := ⟨language.keywords, 0, false⟩

/-- Back to the state before the first line. -/
def reset (n : Nesting) : Nesting := { n with depth := 0, inside := false }

/-- Leaves a level if the line has a closing brace. -/
def close (n : Nesting) (t : List Char) : Nesting :=
  if t.contains '\x7d' && 0 < n.depth then
    { n with depth := n.depth - 1, inside := n.inside && n.depth - 1 != 0 }
  else n

/-- Enters a level if the line ends in an opening brace. -/
def enter (n : Nesting) (t : List Char) : Nesting :=
  if Text.endsIn '\x7b' t then { n with depth := n.depth + 1 } else n

/-- A line that opens a function: a parenthesis, and an opening brace at its end. -/
def opensFunction (t : List Char) : Bool := t.contains '(' && Text.endsIn '\x7b' t

/-- The first keyword that stands in the line. -/
def keywordIn (n : Nesting) (t : List Char) : Option String :=
  n.keywords.find? fun k => Text.occursIn k.toList t

/-- One step on a trimmed line. -/
def step (n : Nesting) (t : List Char) : LineEvent × Nesting :=
  if Text.isBlankOrComment t then (.skipped, n)
  else if !n.inside then
    if opensFunction t then (.functionOpened, { n with depth := n.depth + 1, inside := true })
    else (.outside, n.close t)
  else match n.keywordIn t with
    | some k => (.keyword k n.depth, (n.enter t).close t)
    | none => (.body (n.close t).depth, n.close t)

/-- One step on a line as it stands. -/
def observe (n : Nesting) (line : List Char) : LineEvent × Nesting := n.step (Text.trim line)

/-- The events of a list of lines, and the state behind them. -/
def observeAll (n : Nesting) : List (List Char) → List LineEvent × Nesting
  | [] => ([], n)
  | line :: rest =>
    let now := n.observe line
    let later := now.2.observeAll rest
    (now.1 :: later.1, later.2)

end Nesting

end StyleAudit
