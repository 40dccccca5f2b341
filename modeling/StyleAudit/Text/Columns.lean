import StyleAudit.Text.Width

/-!
# Columns on a terminal

The number of columns a text takes on a terminal.  Mostly it is the sum of the widths of its
characters, but some characters are drawn together:

* a picture may be written with several characters: a selector asks for the picture or for the
  plain form, a skin tone belongs to the picture before it, and joined pictures take the place
  of one;
* some scripts draw two letters as one, such as lam and alef.

A text is measured from its end, because what a character takes depends on what stands behind it:
`Behind` is all that has to be known of that.
-/

namespace StyleAudit.Text

/-- The end of two letters that are drawn as one. -/
inductive LigatureEnd where
  /-- Lamed of Hebrew. -/
  | lamed
  /-- Ya of Buginese. -/
  | ya
  /-- Ya of Buginese with a vowel sign and a joiner before it. -/
  | signedYa
  /-- A consonant of Tifinagh. -/
  | tifinagh
  /-- A consonant of Tifinagh with the mark that joins consonants before it. -/
  | markedTifinagh
  /-- A second tone letter of Lisu. -/
  | lisuTone
  /-- I of Old Turkic. -/
  | orkhonI
  /-- A letter of Khmer that may be written below the one before it. -/
  | coengLetter
  deriving DecidableEq

/-- What stands behind a character. -/
inductive Behind where
  /-- Nothing that matters. -/
  | nothing
  /-- A line feed. -/
  | lineFeed
  /-- A skin tone. -/
  | tone
  /-- A letter of a flag. -/
  | flagLetter
  /-- Several letters of flags. -/
  | flagLetters
  /-- A picture. -/
  | picture
  /-- A joiner and a picture. -/
  | joinedPicture
  /-- A keycap, a joiner and a picture. -/
  | joinedKeycap
  /-- A letter of a flag, a joiner and a picture. -/
  | joinedFlagLetter
  /-- Whole flags, a joiner and a picture. -/
  | joinedFlags
  /-- A letter of a flag, whole flags, a joiner and a picture. -/
  | joinedFlagsLetter
  /-- So many letters of a tag, the end of the tag, a joiner and a picture. -/
  | joinedTag (letters : Nat)
  /-- So many digits of a tag, the rest of it, a joiner and a picture. -/
  | joinedTagDigits (digits : Nat)
  /-- Alef of Arabic. -/
  | alef
  /-- The end of a ligature, and whether a joiner stands before it. -/
  | ligature (last : LigatureEnd) (joined : Bool)
  deriving DecidableEq

/-- A request for one of the two forms of a picture. -/
inductive Selector where
  /-- The picture. -/
  | picture
  /-- The plain form. -/
  | plain
  deriving DecidableEq

/-- The selector that a character is. -/
def selector? (c : Char) : Option Selector :=
  if c.toNat == 0xFE0F then some .picture
  else if c.toNat == 0xFE0E then some .plain
  else none

/-- The character that joins two pictures or letters. -/
def isJoiner (c : Char) : Bool := c.toNat == 0x200D

/-- What stands behind a character: a selector directly behind it, and the rest. -/
structure Surroundings where
  /-- The selector. -/
  selector : Option Selector := none
  /-- What follows. -/
  behind : Behind := .nothing

namespace Behind

/-- Letters are drawn together across a selector. -/
def isLetter : Behind → Bool
  | .alef => true
  | .ligature _ _ => true
  | _ => false

/-- What remains of it in front of a selector. -/
def select (b : Behind) : Selector → Surroundings
  | .picture =>
    if b.isLetter || b == .joinedPicture || b == .joinedKeycap then ⟨some .picture, b⟩
    else ⟨some .picture, .nothing⟩
  | .plain => if b.isLetter then ⟨some .plain, b⟩ else ⟨some .plain, .nothing⟩

/-- What a character is for the one before it, when it is not drawn together with what follows. -/
def start (c : Char) : Behind :=
  let n := c.toNat
  if n < 128 then if c == '\n' then .lineFeed else .nothing
  else if isTone c then .tone
  else if isFlagLetter c then .flagLetter
  else if picturesTable.contains n then .picture
  else if isAlef c then .alef
  else if n == 0x5DC then .ligature .lamed false
  else if n == 0x1A10 then .ligature .ya false
  else if isTifinagh c then .ligature .tifinagh false
  else if n == 0xA4FC || n == 0xA4FD then .ligature .lisuTone true
  else if n == 0x10C03 then .ligature .orkhonI false
  else if isCoengLetter c then .ligature .coengLetter true
  else .nothing

/-- A letter in front of the end of a ligature: the columns that it adds, and what it is for the
character before it. -/
def joinLetter? (c : Char) (last : LigatureEnd) (joined : Bool) : Option (Int × Behind) :=
  match last, joined with
  | .lamed, true => if c.toNat == 0x5D0 then some (0, .nothing) else none
  | .ya, true => if c.toNat == 0x1A17 then some (0, .ligature .signedYa true) else none
  | .signedYa, _ => if c.toNat == 0x1A15 then some (0, .nothing) else none
  | .tifinagh, joined =>
    if c.toNat == 0x2D7F then some (1, .ligature .markedTifinagh true)
    else if joined && isTifinagh c then some (0, .nothing)
    else none
  | .markedTifinagh, _ => if isTifinagh c then some (-1, .nothing) else none
  | .lisuTone, _ => if isBetween 0xA4F8 0xA4FB c then some (0, .nothing) else none
  | .orkhonI, true => if c.toNat == 0x10C32 then some (0, .nothing) else none
  | .coengLetter, _ => if c.toNat == 0x17D2 then some (-1, .nothing) else none
  | _, _ => none

/-- A character that is drawn together with what stands behind it: the columns that it adds, and
what it is for the character before it. -/
def join? (c : Char) : Behind → Option (Int × Behind)
  | .ligature last joined =>
    if isJoiner c then some (0, .ligature last true)
    else if isIgnoredMark c then some (0, .ligature last joined)
    else joinLetter? c last joined
  | .alef =>
    if isLam c then some (0, .nothing)
    else if charColumns c == 0 && !opaqueTable.contains c.toNat then some (0, .alef)
    else none
  | .tone =>
    if toneableTable.contains c.toNat then some (0, .picture)
    else if isJoiner c then some (0, .joinedPicture)
    else none
  | .flagLetter => if isFlagLetter c then some (1, .flagLetters) else none
  | .flagLetters =>
    if isFlagLetter c then some (1, .flagLetters)
    else if isJoiner c then some (0, .joinedPicture)
    else none
  | .picture => if isJoiner c then some (0, .joinedPicture) else none
  | .joinedPicture =>
    if c.toNat == 0x20E3 then some (0, .joinedKeycap)
    else if isFlagLetter c then some (1, .joinedFlagLetter)
    else if isTone c then some (0, .tone)
    else if c.toNat == 0xE007F then some (0, .joinedTag 0)
    else if picturesTable.contains c.toNat then some (0, .picture)
    else none
  | .joinedFlagLetter => if isFlagLetter c then some (-1, .joinedFlags) else none
  | .joinedFlags =>
    if isFlagLetter c then some (3, .joinedFlagsLetter)
    else if isJoiner c then some (0, .joinedPicture)
    else none
  | .joinedFlagsLetter =>
    if isFlagLetter c then some (-1, .joinedFlags)
    else if isJoiner c then some (0, .joinedPicture)
    else none
  | .joinedTag n =>
    if isTagLetter c && n < 6 then some (0, .joinedTag (n + 1))
    else if isTagDigit c && n < 5 then some (0, .joinedTagDigits 1)
    else if c.toNat == 0x1F3F4 && 3 ≤ n then some (0, .picture)
    else none
  | .joinedTagDigits n =>
    if isTagDigit c && n < 3 then some (0, .joinedTagDigits (n + 1))
    else if c.toNat == 0x1F3F4 && n == 3 then some (0, .picture)
    else none
  | .lineFeed => if c == '\r' then some (0, .nothing) else none
  | .joinedKeycap => none
  | .nothing => none

/-- A character in front of what stands behind it. -/
def advance (c : Char) (b : Behind) : Int × Surroundings :=
  match selector? c with
  | some s => (0, b.select s)
  | none =>
    match b.join? c with
    | some (n, b') => (n, ⟨none, b'⟩)
    | none => (charColumns c, ⟨none, start c⟩)

end Behind

/-- The columns that a character adds to a text that starts with `s`, and what the text starts
with then. -/
def Surroundings.advance (c : Char) (s : Surroundings) : Int × Surroundings :=
  let kept := if s.behind.isLetter then s.behind else .nothing
  match s.selector with
  | none => s.behind.advance c
  | some .picture =>
    if selectableTable.contains c.toNat then
      (if s.behind == .joinedPicture || s.behind == .joinedKeycap then 0 else 2,
        ⟨none, .picture⟩)
    else kept.advance c
  | some .plain =>
    if plainableTable.contains c.toNat then (1, ⟨none, .nothing⟩) else kept.advance c

/-- The columns of a text, and what it starts with. -/
def measure (t : List Char) : Int × Surroundings :=
  t.foldr (fun c r =>
    let step := r.2.advance c
    (r.1 + step.1, step.2)) (0, {})

/-- Columns of a text. -/
def columns (t : List Char) : Nat := (measure t).1.toNat

/-! ### Colour sequences -/

/-- Position inside a colour sequence: an escape, `[`, and characters up to `m`. -/
inductive Colour where
  /-- Outside. -/
  | outside
  /-- Behind the escape character. -/
  | escape
  /-- Behind the bracket. -/
  | inside
  deriving DecidableEq

/-- The number of visible characters that stand inside colour sequences; the escape character
itself is not among them. -/
def hiddenFrom (state : Colour) : List Char → Nat
  | [] => 0
  | c :: t =>
    let weight := if isControl c || charColumns c == 0 then 0 else 1
    match state with
    | .outside => hiddenFrom (if c == Char.ofNat 0x1B then .escape else .outside) t
    | .escape =>
      if c == '[' then weight + hiddenFrom .inside t else hiddenFrom .outside t
    | .inside => weight + hiddenFrom (if c == 'm' then .outside else .inside) t

/-- Columns that a text takes once a terminal has interpreted its colour sequences. -/
def shownColumns (t : List Char) : Nat := columns t - hiddenFrom .outside t

end StyleAudit.Text
