/-!
# Blank characters and the edges of a line

A character is blank when Unicode gives it the property `White_Space`.  Trimming, the
separation of words and every "optional space" of the recognisers use this one class, so that
they agree on every text.
-/

namespace StyleAudit.Text

/-- The 25 characters with the property `White_Space`. -/
def isBlank (c : Char) : Bool :=
  let n := c.toNat
  (0x09 ≤ n && n ≤ 0x0D) || n == 0x20 || n == 0x85 || n == 0xA0 || n == 0x1680 ||
    (0x2000 ≤ n && n ≤ 0x200A) || n == 0x2028 || n == 0x2029 || n == 0x202F || n == 0x205F ||
    n == 0x3000

/-- The text without its leading blanks. -/
def trimStart (t : List Char) : List Char := t.dropWhile isBlank

/-- The text without its trailing blanks. -/
def trimEnd (t : List Char) : List Char := (t.reverse.dropWhile isBlank).reverse

/-- The text without the blanks on either edge. -/
def trim (t : List Char) : List Char := trimEnd (trimStart t)

/-- The first word: what stands before the first blank once leading blanks are gone. -/
def firstWord (t : List Char) : List Char := (trimStart t).takeWhile fun c => !isBlank c

/-- Gathers the words of a text.  `word` holds the word under construction, reversed. -/
def wordsFrom (word : List Char) : List Char → List (List Char)
  | [] => if word.isEmpty then [] else [word.reverse]
  | c :: t =>
    if isBlank c then
      if word.isEmpty then wordsFrom [] t else word.reverse :: wordsFrom [] t
    else wordsFrom (c :: word) t

/-- The maximal runs without blanks, in order. -/
def words (t : List Char) : List (List Char) := wordsFrom [] t

/-! ### Looking for a text inside another -/

/-- `needle` stands somewhere in the text. -/
def occursIn (needle : List Char) : List Char → Bool
  | [] => needle.isEmpty
  | c :: t => needle.isPrefixOf (c :: t) || occursIn needle t

/-- The part of the text that starts with the first occurrence of `needle`. -/
def fromFirst (needle : List Char) : List Char → Option (List Char)
  | [] => if needle.isEmpty then some [] else none
  | c :: t => if needle.isPrefixOf (c :: t) then some (c :: t) else fromFirst needle t

/-- The text ends in the character `c`. -/
def endsIn (c : Char) (t : List Char) : Bool := t.getLast? == some c

/-- A text that carries no code: empty, or the start of a `//` or `/*` comment.  It is applied
to trimmed lines; the inside of a comment over several lines is not recognised. -/
def isBlankOrComment (t : List Char) : Bool :=
  t.isEmpty || ['/', '/'].isPrefixOf t || ['/', '*'].isPrefixOf t

end StyleAudit.Text
