/-!
# Scripts

The syntax of scripts: commands and how they are put together.  A command has words, and a word
is a row of parts, because a part of it may be quoted and another part may stand for the value of
a parameter or for the output of a script.  Scripts inside words are kept as text; they are read
when the word is needed.
-/

namespace StyleAudit.Script

/-- What is made of the value of a parameter.  `orEmpty` tells whether an empty value counts as
none. -/
inductive Form where
  /-- The value. -/
  | value
  /-- The number of its characters. -/
  | size
  /-- The value, or a word if there is none. -/
  | orElse (orEmpty : Bool)
  /-- The value, or a word if there is none, which becomes the value. -/
  | orAssign (orEmpty : Bool)
  /-- A word if there is a value. -/
  | ifSet (orEmpty : Bool)
  /-- The value; the script ends if there is none. -/
  | orFail (orEmpty : Bool)
  /-- The value without an end that matches a pattern. -/
  | dropEnd (longest : Bool)
  /-- The value without a beginning that matches a pattern. -/
  | dropStart (longest : Bool)
  deriving DecidableEq

/-- A part of a word.  Only what stands outside quotes is cut at blanks. -/
inductive Part where
  /-- Text. -/
  | text (t : List Char) (isQuoted : Bool)
  /-- The value of a parameter. -/
  | parameter (name : List Char) (form : Form) (word : List Char) (isQuoted : Bool)
  /-- What a script prints. -/
  | output (script : List Char) (isQuoted : Bool)
  /-- The value of an expression. -/
  | number (expression : List Char) (isQuoted : Bool)
  /-- Braces that have no meaning. -/
  | broken

/-- A word. -/
abbrev Word := List Part

/-- Where a stream goes to or comes from. -/
inductive Redirection where
  /-- It comes from a file. -/
  | read (file : Word)
  /-- It comes from a text. -/
  | here (text : Word)
  /-- It goes to a file, in place of what was there or behind it. -/
  | write (file : Word) (append : Bool)
  /-- It goes where another stream goes. -/
  | like (stream : Word)

/-- A stream by its number, and where it goes to or comes from. -/
abbrev Redirect := Nat × Redirection

/-- A simple command. -/
structure Simple where
  /-- The number of its line. -/
  line : Nat
  /-- Values for variables. -/
  assignments : List (String × Word) := []
  /-- The name of the command and its arguments. -/
  words : List Word := []
  /-- Its redirections. -/
  redirects : List Redirect := []

end StyleAudit.Script

namespace StyleAudit

/-- A script. -/
inductive Script where
  /-- Nothing. -/
  | nothing
  /-- A simple command. -/
  | simple (c : Script.Simple)
  /-- One after the other. -/
  | seq (first second : Script)
  /-- The second if the first succeeds. -/
  | both (first second : Script)
  /-- The second if the first fails. -/
  | either (first second : Script)
  /-- Success and failure exchanged. -/
  | invert (body : Script)
  /-- What the first prints is the input of the second. -/
  | pipe (first second : Script)
  /-- A script that leaves no traces in variables. -/
  | subshell (body : Script)
  /-- A script with redirections. -/
  | redirected (line : Nat) (body : Script) (redirects : List Script.Redirect)
  /-- One of two scripts by the success of a third. -/
  | choose (test yes no : Script)
  /-- A script again and again, while or until a test succeeds. -/
  | loop (isUntil : Bool) (test body : Script)
  /-- A script once for each word; without words, for each argument. -/
  | forEach (name : String) (items : Option (List Script.Word)) (body : Script)
  /-- The first of some branches with a pattern that a word matches. -/
  | cases (word : Script.Word) (branches : Script)
  /-- A branch, and those behind it. -/
  | branch (patterns : List Script.Word) (body rest : Script)
  /-- A script gets a name. -/
  | define (name : String) (body : Script)

end StyleAudit
