import StyleAudit.Path

/-!
# Source languages

The language of a source follows from the extension of its path, without regard to case.
-/

namespace StyleAudit

/-- A source language. -/
inductive Language where
  /-- C, and every file whose extension says nothing else. -/
  | c
  /-- C++. -/
  | cpp
  /-- A header of C or C++. -/
  | header
  /-- Perl. -/
  | perl
  deriving DecidableEq, Repr

namespace Language

/-- Every language. -/
def all : List Language := [.c, .cpp, .header, .perl]

/-- The name of a language. -/
def name : Language → String
  | .c => "C"
  | .cpp => "Cpp"
  | .header => "Header"
  | .perl => "Perl"

/-- C, C++ and their headers. -/
def isCFamily : Language → Bool
  | .perl => false
  | _ => true

/-- Extensions of the sources that a directory is searched for. -/
def extensions : List String := ["c", "cpp", "cc", "cxx", "h", "hpp", "pl", "pm"]

/-- The language that an extension names.  The extension is in lower case. -/
def ofExtension (ext : String) : Language :=
  if ext == "cpp" || ext == "cc" || ext == "cxx" then .cpp
  else if ext == "h" || ext == "hpp" then .header
  else if ext == "pl" || ext == "pm" then .perl
  else .c

end Language

/-- Capital letters of ASCII made small.  No other character has a small form that occurs in the
names compared with it, so that this decides equality without regard to case. -/
def lowered (t : List Char) : String := String.ofList (t.map Char.toLower)

/-- The language of the source at a path. -/
def Path.language (p : Path) : Language :=
  .ofExtension (lowered (p.extension?.getD []))

/-- The path has an extension of a source. -/
def Path.isSource (p : Path) : Bool :=
  match p.extension? with
  | some ext => Language.extensions.contains (lowered ext)
  | none => false

end StyleAudit
