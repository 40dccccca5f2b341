import StyleAudit.Disk
import StyleAudit.Tool.Shell.Wildcard

/-!
# Words under construction

A word of a script becomes a row of glyphs: characters, each with the mark whether it stands for
itself and whether a word is cut there, and what starts or ends a word.  The glyphs are cut into
words, and a word that is a pattern stands for the paths that match it.
-/

namespace StyleAudit.Shell

/-- A character of a word under construction. -/
inductive Glyph where
  /-- A character; whether it stands for itself, and whether a word is cut there if it is blank. -/
  | char (c : Char) (isLiteral isCut : Bool)
  /-- Quotes, which make a word even of nothing. -/
  | quotes
  /-- The end of a word. -/
  | cut

/-- The glyphs of a text. -/
def glyphs (isQuoted isCut : Bool) (t : List Char) : List Glyph :=
  (if isQuoted then [.quotes] else []) ++ t.map fun c => .char c isQuoted (isCut && !isQuoted)

/-- A blank. -/
def isBlank (c : Char) : Bool := c == ' ' || c == '\t' || c == '\n'

/-- Cuts glyphs into words at the separators.  Blanks in a row count as one separator, also around
another one.  `word` holds the word under construction, reversed, if there is one, and `afterBlank`
tells whether a blank has ended the word before. -/
def fields (separators : List Char) (word : Option (List (Char × Bool))) (afterBlank : Bool) :
    List Glyph → List (List (Char × Bool))
  | [] => (word.map List.reverse).toList
  | .quotes :: rest => fields separators (some (word.getD [])) false rest
  | .cut :: rest => (word.map List.reverse).toList ++ fields separators none false rest
  | .char c isLiteral isCut :: rest =>
    if isCut && separators.contains c then
      if isBlank c then
        (word.map List.reverse).toList ++ fields separators none (afterBlank || word.isSome) rest
      else if word.isNone && afterBlank then fields separators none false rest
      else (word.getD []).reverse :: fields separators none false rest
    else fields separators (some ((c, isLiteral) :: word.getD [])) false rest

/-- The pattern of a word. -/
def patternOf (word : List (Char × Bool)) : List Wildcard.Item :=
  Wildcard.ofChars (word.length + 1) word

/-- A word may stand for names of files. -/
def hasWildcard (word : List (Char × Bool)) : Bool :=
  word.any fun c => !c.2 && (c.1 == '*' || c.1 == '?' || c.1 == '[')

/-- Names of entries that a pattern matches, in order.  A dot in front must be written out. -/
def matching (disk : Disk) (dir : String) (word : List (Char × Bool)) : List String :=
  match disk.lookup? ⟨if dir.isEmpty then "." else dir⟩ with
  | some (.dir _ entries) =>
    let names := (entries.map (·.1)).filter fun n =>
      (n.toList.head? != some '.' || (word.head?.map (·.1)) == some '.') &&
        Wildcard.accepts (patternOf word) n.toList
    names.mergeSort fun a b => (Path.compareChars a.toList b.toList).isLE
  | _ => []

/-- Cuts a word at its slashes. -/
def segments (segment : List (Char × Bool)) : List (Char × Bool) → List (List (Char × Bool))
  | [] => [segment.reverse]
  | c :: rest => if c.1 == '/' then segment.reverse :: segments [] rest
    else segments (c :: segment) rest

/-- The paths that segments stand for, below a directory that is written as `dir`. -/
def paths (disk : Disk) (dir : String) : List (List (Char × Bool)) → List String
  | [] => []
  | [segment] =>
    if hasWildcard segment then (matching disk dir segment).map (dir ++ ·)
    else
      let path := dir ++ String.ofList (segment.map (·.1))
      if disk.contains ⟨path⟩ then [path] else []
  | segment :: rest =>
    let heres := if hasWildcard segment then matching disk dir segment
      else [String.ofList (segment.map (·.1))]
    heres.flatMap fun h => paths disk (dir ++ h ++ "/") rest

/-- The words that a word stands for: paths if it is a pattern that some path matches. -/
def spread (disk : Disk) (word : List (Char × Bool)) : List String :=
  let text := String.ofList (word.map (·.1))
  if hasWildcard word then
    match paths disk "" (segments [] word) with
    | [] => [text]
    | found => found
  else [text]

/-- A text without line feeds at its end. -/
def dropFinalBreaks (t : List Char) : List Char := (t.reverse.dropWhile (· == '\n')).reverse

end StyleAudit.Shell
