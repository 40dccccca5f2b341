import StyleAudit.Mail.Domain.Host
import StyleAudit.Text.Blank

/-!
# Addresses of mail

A mailbox is an address, `user@domain`, or a name and an address in angle brackets.  The user is
a quoted string or atoms with dots between them, the domain is atoms with dots between them, and
a name is a row of atoms, quoted strings, dots and gaps that starts with an atom or a quoted
string.  Blanks may stand around the whole.

Readers take a text and return what they read and the rest.  A part is always read as far as it
goes; there is no second try with less of it.  A mailbox can also be written again, and a mail
goes only to mailboxes that are the same then: a user who needs quotes is written without them.
-/

namespace StyleAudit.Mail

/-- A mailbox. -/
structure Mailbox where
  /-- The name of its owner. -/
  name : Option (List Char)
  /-- What stands before the `@`. -/
  user : List Char
  /-- What stands behind it. -/
  domain : List Char

/-- Why a text is no mailbox. -/
inductive AddressError where
  /-- It has another form. -/
  | form
  /-- The user holds other characters than users may, or is too long. -/
  | user
  /-- The domain names no host. -/
  | domain
  deriving DecidableEq

/-- The message of an error. -/
def AddressError.message : AddressError → String
  | .form => "Invalid input"
  | .user => "Invalid email user"
  | .domain => "Invalid email domain"

/-! ### Characters -/

/-- A space or a tab. -/
def isGap (c : Char) : Bool := c == ' ' || c == '\t'

/-- A character beyond ASCII. -/
def isForeign (c : Char) : Bool := 128 ≤ c.toNat

/-- A character of an atom. -/
def isAtomChar (c : Char) : Bool := Domain.isAtomic c || isForeign c

/-- A character that stands for itself inside quotes: any but blanks, line ends, the quote and
the backslash. -/
def isQuotedChar (c : Char) : Bool :=
  let n := c.toNat
  (n != 0 && n != 9 && n != 10 && n != 13 && n != 32 && c != '"' && c != '\\' && n < 128) ||
    isForeign c

/-- A character that may stand behind a backslash. -/
def isEscapable (c : Char) : Bool :=
  let n := c.toNat
  n != 0 && n != 10 && n != 13 && n < 128

/-! ### Readers -/

/-- Skips spaces and tabs. -/
def skipGaps (t : List Char) : List Char := t.dropWhile isGap

/-- An atom. -/
def readAtom (t : List Char) : Option (List Char × List Char) :=
  let atom := t.takeWhile isAtomChar
  if atom.isEmpty then none else some (atom, t.drop atom.length)

/-- Further atoms behind dots. -/
def readDots (fuel : Nat) (t : List Char) : List Char × List Char :=
  match fuel, t with
  | fuel + 1, '.' :: rest =>
    match readAtom rest with
    | some (atom, rest) =>
      let (more, rest) := readDots fuel rest
      ('.' :: atom ++ more, rest)
    | none => ([], t)
  | _, t => ([], t)

/-- Atoms with dots between them, behind a gap. -/
def readDotAtom (t : List Char) : Option (List Char × List Char) :=
  (readAtom (skipGaps t)).map fun (atom, rest) =>
    let (more, rest) := readDots rest.length rest
    (atom ++ more, rest)

/-- The inside of a quoted string, up to the quote that ends it.  Of a gap the first character is
kept if anything follows, and blanks before the quote are dropped. -/
def readQuotedText (fuel : Nat) (seen : List Char) (t : List Char) :
    Option (List Char × List Char) :=
  match fuel with
  | 0 => none
  | fuel + 1 =>
    let gap := (t.takeWhile isGap).take 1
    let finished := match Text.trimStart t with
      | '"' :: rest => some (seen.reverse, rest)
      | _ => none
    match skipGaps t with
    | '\\' :: c :: rest =>
      if isEscapable c then readQuotedText fuel (c :: (gap ++ seen)) rest else none
    | c :: rest =>
      if isQuotedChar c then readQuotedText fuel (c :: (gap ++ seen)) rest else finished
    | [] => none

/-- A quoted string. -/
def readQuoted : List Char → Option (List Char × List Char)
  | '"' :: t => readQuotedText (t.length + 1) [] t
  | _ => none

/-- A word of a name. -/
def readWord (t : List Char) : Option (List Char × List Char) := (readQuoted t).or (readAtom t)

/-- A gap, of which one character is kept, or a dot. -/
def readBetween (t : List Char) : Option (List Char × List Char) :=
  match t with
  | '.' :: rest => some (['.'], rest)
  | c :: rest => if isGap c then some ([c], skipGaps rest) else none
  | [] => none

/-- Further parts of a name. -/
def readParts (fuel : Nat) (t : List Char) : List Char × List Char :=
  match fuel with
  | 0 => ([], t)
  | fuel + 1 =>
    match (readWord t).or (readBetween t) with
    | some (part, rest) =>
      let (more, rest) := readParts fuel rest
      (part ++ more, rest)
    | none => ([], t)

/-- A name. -/
def readName (t : List Char) : Option (List Char × List Char) :=
  (readWord t).map fun (word, rest) =>
    let (more, rest) := readParts rest.length rest
    (word ++ more, rest)

/-- `user@domain`. -/
def readAddress (t : List Char) : Option ((List Char × List Char) × List Char) :=
  match (readDotAtom t).or (readQuoted t) with
  | some (user, '@' :: rest) =>
    (readDotAtom rest).map fun (domain, rest) => ((user, domain), rest)
  | _ => none

/-- A name, if there is one, and an address in angle brackets. -/
def readNamed (t : List Char) : Option (Mailbox × List Char) :=
  let (name, rest) : Option (List Char) × List Char :=
    match readName t with
    | some (name, rest) => (some name, rest)
    | none => (none, t)
  match rest with
  | '<' :: rest =>
    match readAddress rest with
    | some ((user, domain), '>' :: rest) => some (⟨name, user, domain⟩, rest)
    | _ => none
  | _ => none

/-! ### Users -/

/-- The inside of a user in quotes: gaps, characters that stand for themselves, and visible
characters behind a backslash. -/
def isQuotedUser : List Char → Bool
  | [] => true
  | '\\' :: c :: t => 0x21 ≤ c.toNat && c.toNat ≤ 0x7E && isQuotedUser t
  | c :: t =>
    (isGap c || isForeign c || (0x21 ≤ c.toNat && c.toNat ≤ 0x7E && c != '"' && c != '\\')) &&
      isQuotedUser t

/-- A user of at most 64 bytes: characters in quotes, or atoms with dots between them. -/
def isUser (t : List Char) : Bool :=
  Domain.byteLength t ≤ 64 &&
    if t.head? == some '"' && Text.endsIn '"' t then
      2 < t.length && isQuotedUser (t.drop 1).dropLast
    else (Text.splitAtChar '.' t).all fun a => !a.isEmpty && a.all Domain.isAtomic

/-! ### Mailboxes -/

/-- Reads a mailbox. -/
def parseMailbox (t : List Char) : Except AddressError Mailbox :=
  let t := Text.trimStart t
  let plain := (readAddress t).map fun (a, rest) => ((⟨none, a.1, a.2⟩ : Mailbox), rest)
  match (readNamed t).or plain with
  | some (mailbox, rest) =>
    if !(Text.trimStart rest).isEmpty then .error .form
    else if !isUser mailbox.user then .error .user
    else if !Domain.isForeignHost mailbox.domain then .error .domain
    else .ok mailbox
  | none => .error .form

/-- A name written again: as it is if it holds only atoms and gaps, else in quotes. -/
def writeName (name : List Char) : List Char :=
  if name.all fun c => isAtomChar c || isGap c then name
  else
    '"' :: name.flatMap (fun c => if isQuotedChar c || isGap c then [c] else ['\\', c]) ++ ['"']

/-- A mailbox written again. -/
def Mailbox.write (m : Mailbox) : List Char :=
  let address := m.user ++ '@' :: m.domain
  let name := Text.trim (m.name.getD [])
  if name.isEmpty then address else writeName name ++ [' ', '<'] ++ address ++ ['>']

/-- The mailbox can be read again once it is written. -/
def Mailbox.isReadable (m : Mailbox) : Bool := (parseMailbox m.write).isOk

end StyleAudit.Mail
