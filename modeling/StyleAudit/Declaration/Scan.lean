import StyleAudit.Declaration.Pattern
import StyleAudit.Source.Document

/-!
# Declarations of a source

A scan reads numbered lines in order and finds at most one declaration on each.  A running count
of braces tells symbols at the top level from those inside braces; it never falls below zero.
-/

namespace StyleAudit

/-- The kind of a declared symbol. -/
inductive DeclarationKind where
  /-- A function definition. -/
  | function
  /-- A variable that is no pointer. -/
  | plain
  /-- A pointer variable. -/
  | pointer
  /-- A struct, class, union or enum. -/
  | record
  deriving DecidableEq

/-- A declared symbol. -/
structure Declaration where
  /-- What is declared. -/
  kind : DeclarationKind
  /-- Its name. -/
  name : List Char
  /-- The line of the source. -/
  line : Nat
  /-- Whether it stands outside all braces. -/
  topLevel : Bool
  deriving DecidableEq

namespace Declaration

/-- What a trimmed line declares. -/
def classify (t : List Char) : Option (DeclarationKind × List Char) :=
  match definedFunction t with
  | some name => some (.function, name)
  | none =>
    match declaredType t with
    | some name => some (.record, name)
    | none =>
      (declaredVariable t).map fun v =>
        (if v.separator.contains '*' then .pointer else .plain, v.name)

/-- A trimmed line that the scan reads: neither empty nor a comment nor a directive. -/
def isCode (t : List Char) : Bool := !Text.isBlankOrComment t && !(['#'].isPrefixOf t)

/-- The depth behind a trimmed line of code. -/
def depthAfter (depth : Nat) (t : List Char) : Nat :=
  (depth + t.count '\x7b') - t.count '\x7d'

/-- The declarations of numbered lines at a depth of braces. -/
def scanFrom (depth : Nat) : List (Nat × List Char) → List Declaration
  | [] => []
  | (number, text) :: rest =>
    let t := Text.trim text
    if isCode t then
      ((classify t).map fun (kind, name) => ⟨kind, name, number, depth == 0⟩).toList ++
        scanFrom (depthAfter depth t) rest
    else scanFrom depth rest

/-- The declarations of numbered lines. -/
def scan (lines : List (Nat × List Char)) : List Declaration := scanFrom 0 lines

end Declaration

/-- The declarations of a document as its own lines give them. -/
def Document.declarations (d : Document) : List Declaration :=
  Declaration.scan (d.lines.map fun l => (l.number, l.text))

end StyleAudit
