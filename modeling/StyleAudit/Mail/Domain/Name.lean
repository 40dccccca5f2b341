import StyleAudit.Mail.Domain.Direction
import StyleAudit.Mail.Domain.Joining
import StyleAudit.Mail.Domain.Punycode
import StyleAudit.Text.Composed

/-!
# Domain names in ASCII

A domain name is a row of labels with dots between them.  A name in any script is brought into
one form, folded and composed, and then its labels are checked and written in ASCII.  A label
that starts with `xn--` is written so already: it must stand for a label that is in that form and
could not be written otherwise.
-/

namespace StyleAudit.Domain

open Text

/-- What a label in ASCII starts with, if it stands for another one. -/
def encodedMark : List Char := "xn--".toList

/-- A text of ASCII characters. -/
def isAscii (t : List Char) : Bool := t.all fun c => c.toNat < 128

/-- The label that a label stands for. -/
def labelOf? (label : List Char) : Option (List Char) :=
  if !encodedMark.isPrefixOf label then some label
  else if !isAscii label then none
  else
    (Punycode.decode? (label.drop encodedMark.length)).bind fun meant =>
      if !isAscii meant && meant.all isFolded && composed meant == meant then some meant else none

/-- A label that is well formed by itself: it does not start with a mark, and its joiners stand
where they may. -/
def isLabel (label : List Char) : Bool := !label.head?.any isMark && joinersFit [] label

/-- The labels of a name that meets all rules, with none of them written in ASCII. -/
def labels? (name : List Char) : Option (List (List Char)) := do
  let folded ← fold? name
  let labels ← (splitAtChar '.' (composed folded)).mapM labelOf?
  if labels.all isLabel && (!labels.any hasLeftward || labels.all isOneWay) then some labels
  else none

/-- A label written in ASCII. -/
def asciiLabel (label : List Char) : List Char :=
  if isAscii label then label else encodedMark ++ Punycode.encode label

/-- A name written in ASCII, if it meets all rules. -/
def ascii? (name : List Char) : Option (List Char) :=
  (labels? name).map fun labels => ['.'].intercalate (labels.map asciiLabel)

end StyleAudit.Domain
