import StyleAudit.Mail.Domain.Name
import StyleAudit.Text.Blank
import StyleAudit.Text.Number

/-!
# Hosts

A host is named by a domain name or by its address.  The labels of a name start and end in a
letter or number; between them many other characters may stand, for a name of a host need not be
in use on any network.  An address stands in brackets, and one of the newer kind, with colons,
may also stand alone.
-/

namespace StyleAudit.Domain

open Text

/-- The number of bytes of a text. -/
def byteLength (t : List Char) : Nat := (String.ofList t).utf8ByteSize

/-- A character of an atom: a letter, a number or one of some signs. -/
def isAtomic (c : Char) : Bool :=
  isAlphanumeric c || "!#$%&'*+-/=?^_`\x7b|\x7d~".toList.contains c

/-- A label of a host: at most 63 bytes that start and end in a letter or number. -/
def isHostLabel (label : List Char) : Bool :=
  byteLength label ≤ 63 && label.head?.any isAlphanumeric && label.getLast?.any isAlphanumeric &&
    label.all isAtomic

/-- What stands between brackets. -/
def bracketed? : List Char → Option (List Char)
  | '[' :: t => if endsIn ']' t then some t.dropLast else none
  | _ => none

/-- A character of an address in brackets. -/
def isLiteral (c : Char) : Bool :=
  0x21 ≤ c.toNat && c.toNat != 0x7F && c != '[' && c != '\\' && c != ']'

/-! ### Addresses with colons -/

/-- A byte in decimal, without zeros before it. -/
def isByte (t : List Char) : Bool :=
  t.length ≤ 3 && t.all Char.isDigit && (t.length ≤ 1 || t.head? != some '0') &&
    (natOfDigits? 10 t).any (· < 256)

/-- Four bytes with dots between them. -/
def isQuad (t : List Char) : Bool :=
  (splitAtChar '.' t).length == 4 && (splitAtChar '.' t).all isByte

/-- A group of at most four hexadecimal digits. -/
def isGroup (t : List Char) : Bool := t.length ≤ 4 && (natOfDigits? 16 t).isSome

/-- The number of groups, of which four bytes at the end are two. -/
def groupCount? (mayEndInQuad : Bool) : List (List Char) → Option Nat
  | [] => some 0
  | [t] => if isGroup t then some 1 else if mayEndInQuad && isQuad t then some 2 else none
  | t :: ts => if isGroup t then (groupCount? mayEndInQuad ts).map (· + 1) else none

/-- Cuts a text at its first double colon. -/
def cutAtGap (seen : List Char) : List Char → Option (List Char × List Char)
  | ':' :: ':' :: t => some (seen.reverse, t)
  | c :: t => cutAtGap (c :: seen) t
  | [] => none

/-- The groups of a part of an address. -/
def groups (t : List Char) : List (List Char) := if t.isEmpty then [] else splitAtChar ':' t

/-- An address of eight groups; a double colon stands for all groups that are missing. -/
def isColonAddress (t : List Char) : Bool :=
  match cutAtGap [] t with
  | none => groupCount? true (groups t) == some 8
  | some (before, behind) =>
    match groupCount? false (groups before), groupCount? true (groups behind) with
    | some m, some n => m + n ≤ 7
    | _, _ => false

/-! ### Hosts -/

/-- A host: an address, or a name of at most 254 bytes. -/
def isHost (t : List Char) : Bool :=
  (byteLength t ≤ 254 &&
    match bracketed? t with
    | some inside => inside.all isLiteral
    | none => (splitAtChar '.' t).all isHostLabel) ||
  isColonAddress ((bracketed? t).getD t)

/-- A host whose name may be written in any script. -/
def isForeignHost (t : List Char) : Bool := isHost t || (ascii? t).any isHost

end StyleAudit.Domain
