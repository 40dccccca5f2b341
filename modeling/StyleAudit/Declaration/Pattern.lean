import StyleAudit.Text.Blank
import StyleAudit.Text.Word

/-!
# Declarations on one line

Three recognisers for a trimmed line: function definitions, type declarations and variable
declarations.  Each reads the line from left to right by maximal runs, so that the declared name
is determined by the text.

* A function definition has type words, a name and a parenthesis; no semicolon follows the
  parenthesis, and the line ends behind the last closing parenthesis, `const` and an opening
  brace apart.
* A type declaration is `struct`, `class`, `union` or `enum`, a name, and perhaps bases.
* A variable declaration is a type word, a separator that may hold stars, a name, perhaps array
  bounds, an initialiser and further names, and a semicolon; only a comment may follow.
-/

namespace StyleAudit.Declaration

open Text

/-- Words that start statements and name neither a type nor a function. -/
def statementWords : List String :=
  ["if", "else", "for", "while", "do", "switch", "case", "return", "goto", "break", "continue",
    "sizeof", "new", "delete", "throw", "catch", "using", "namespace", "typedef", "defined",
    "template", "public", "private", "protected"]

/-- The text is a statement word. -/
def isStatementWord (t : List Char) : Bool := statementWords.contains (String.ofList t)

/-- A star or an ampersand. -/
def isStar (c : Char) : Bool := c == '*' || c == '&'

/-- A character of a type word behind its first. -/
def isTypeChar (c : Char) : Bool := isWord c || c == ':' || c == '<' || c == '>'

/-- A character of a function name behind its first. -/
def isFunctionChar (c : Char) : Bool := isWord c || c == ':' || c == '~'

/-- The longest run of characters in the class `p` behind a name start, and what follows it. -/
def readName (p : Char → Bool) : List Char → Option (List Char × List Char)
  | [] => none
  | c :: t => if isNameStart c then some (c :: t.takeWhile p, t.dropWhile p) else none

/-- Reads a word literally. -/
def readWord (word : String) (t : List Char) : Option (List Char) :=
  if word.toList.isPrefixOf t then some (t.drop word.length) else none

/-- Reads one of several words, and at least one blank behind it. -/
def readKeyword (words : List String) (t : List Char) : Option (List Char) :=
  words.findSome? fun w =>
    match readWord w t with
    | some (c :: rest) => if isBlank c then some (trimStart rest) else none
    | _ => none

/-! ### Function definitions -/

/-- What may follow the last closing parenthesis of a definition: `const`, then an opening
brace, each of them optional. -/
def isSignatureEnd (t : List Char) : Bool :=
  let t := trimStart t
  let t := ((readWord "const" t).map trimStart).getD t
  let t := (readWord "\x7b" t).getD t
  t.all isBlank

/-- The text behind the opening parenthesis ends a definition. -/
def closesSignature (t : List Char) : Bool :=
  !t.contains ';' && t.contains ')' &&
    isSignatureEnd ((t.reverse.takeWhile (· != ')')).reverse)

/-- What a blank-separated piece in front of a function name is. -/
inductive TypePiece where
  /-- A type word. -/
  | bare
  /-- A type word with stars behind it. -/
  | starred
  /-- Stars alone. -/
  | stars

/-- Tells what a piece is. -/
def typePiece? (t : List Char) : Option TypePiece :=
  match readName isTypeChar t with
  | some (_, []) => some .bare
  | some (_, rest) => if rest.all isStar then some .starred else none
  | none => if t.all isStar then some .stars else none

/-- The pieces are type words, each with stars at most once: directly behind it, or as a piece
of their own. -/
def areTypePieces (afterBare : Bool) : List (List Char) → Bool
  | [] => true
  | t :: ts =>
    match typePiece? t with
    | some .bare => areTypePieces true ts
    | some .starred => areTypePieces false ts
    | some .stars => afterBare && areTypePieces false ts
    | none => false

/-- Cuts the text before the parenthesis into the type words and the name; the stars between
them are dropped. -/
def splitHead (head : List Char) : List Char × List Char :=
  let r := (trimEnd head).reverse
  let name := (r.takeWhile isFunctionChar).reverse
  let types := ((r.dropWhile isFunctionChar).dropWhile isStar).reverse
  (types, name)

/-- The name of a function whose definition starts with `head`, a text without parenthesis. -/
def nameOfHead (head : List Char) : Option (List Char) :=
  let (types, name) := splitHead head
  let pieces := words types
  if (name.head?.any isNameStart) && (types.getLast?.any isBlank) && !pieces.isEmpty &&
      areTypePieces false pieces && !isStatementWord (firstWord types) &&
      !isStatementWord name then some name
  else none

/-- The name of the function that a trimmed line defines. -/
def definedFunction (t : List Char) : Option (List Char) :=
  match t.dropWhile (· != '(') with
  | [] => none
  | _ :: tail => if closesSignature tail then nameOfHead (t.takeWhile (· != '(')) else none

/-- The name of the function that a line defines. -/
def functionName? (line : List Char) : Option (List Char) := definedFunction (trim line)

/-! ### Type declarations -/

/-- What may follow the name of a type: bases behind a colon, then an opening brace or a
semicolon, each of them optional. -/
def isTypeEnd (t : List Char) : Bool :=
  let t := trimStart t
  let t := match readWord ":" t with
    | some rest => rest.dropWhile fun c => c != '\x7b' && c != ';'
    | none => t
  match t with
  | [] => true
  | c :: rest => if c == '\x7b' || c == ';' then rest.all isBlank else false

/-- The name of the type that a trimmed line declares. -/
def declaredType (t : List Char) : Option (List Char) :=
  let t := (readKeyword ["typedef"] t).getD t
  match readKeyword ["struct", "class", "union", "enum"] t with
  | none => none
  | some rest =>
    match readName isWord rest with
    | some (name, tail) => if isTypeEnd tail then some name else none
    | none => none

/-! ### Variable declarations -/

/-- Words that may stand in front of the type of a variable. -/
def qualifiers : List String :=
  ["static", "const", "extern", "volatile", "register", "unsigned", "signed", "long", "short",
    "struct", "enum", "union"]

/-- What may follow the semicolon of a declaration: nothing, or a comment. -/
def isDeclarationEnd (t : List Char) : Bool :=
  let t := trimStart t
  t.isEmpty || (['/', '/'].isPrefixOf t && !t.contains '\n')

/-- Skips array bounds.  `inside` tells whether a bracket is open; a bracket that is never closed
leaves nothing. -/
def skipBounds (inside : Bool) : List Char → List Char
  | [] => []
  | c :: t =>
    if inside then skipBounds (c != ']') t
    else if c == '[' then skipBounds true t
    else if isBlank c then skipBounds false t
    else c :: t

/-- What may follow the name of a variable: bounds, an initialiser, further names, and the
semicolon. -/
def isVariableEnd (t : List Char) : Bool :=
  let t := skipBounds false t
  let t := match t with
    | c :: _ => if c == '=' || c == ',' then t.dropWhile (· != ';') else t
    | [] => t
  match t with
  | ';' :: rest => isDeclarationEnd rest
  | _ => false

/-- A variable as its declaration gives it. -/
structure Variable where
  /-- The type word. -/
  type : List Char
  /-- What stands between type and name. -/
  separator : List Char
  /-- The name. -/
  name : List Char

/-- The separator between type and name, and what follows it. -/
def readSeparator (t : List Char) : List Char × List Char :=
  let sep := t.takeWhile fun c => isBlank c || isStar c
  (sep, t.drop sep.length)

/-- A separator is blanks, or one run of stars with blanks around it. -/
def isSeparator (sep : List Char) : Bool :=
  !sep.isEmpty && (trim sep).all isStar

/-- Reads a declaration without qualifiers. -/
def readVariable (t : List Char) : Option Variable :=
  match readName isTypeChar t with
  | none => none
  | some (type, rest) =>
    let (sep, rest) := readSeparator rest
    if !isSeparator sep then none
    else match readName isWord rest with
      | none => none
      | some (name, tail) => if isVariableEnd tail then some ⟨type, sep, name⟩ else none

/-- Reads a declaration behind as many qualifiers as leave one, at most `fuel`. -/
def readQualified (fuel : Nat) (t : List Char) : Option Variable :=
  match fuel with
  | 0 => readVariable t
  | fuel + 1 =>
    match readKeyword qualifiers t with
    | none => readVariable t
    | some rest => (readQualified fuel rest).or (readVariable t)

/-- The variable that a trimmed line declares. -/
def declaredVariable (t : List Char) : Option Variable :=
  match readQualified t.length t with
  | some v => if isStatementWord v.type || isStatementWord v.name then none else some v
  | none => none

end StyleAudit.Declaration
