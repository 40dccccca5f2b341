import StyleAudit.Source.Language
import StyleAudit.Text.Blank
import StyleAudit.Text.Utf8

/-!
# Documents

A document is a source cut into numbered lines.  The cut is made on the bytes: a line ends at a
line feed, and a carriage return directly before it belongs to the terminator.  Each line is
then decoded by itself, and keeps whether its bytes were UTF-8.  Blanks at the edges of a line
stay as they are, because several rules look at them.
-/

namespace StyleAudit

/-- What ends a line. -/
inductive Ending where
  /-- A line feed. -/
  | lf
  /-- A carriage return and a line feed. -/
  | crlf
  /-- The end of the source. -/
  | none
  deriving DecidableEq, Repr

/-- The bytes of a terminator. -/
def Ending.bytes : Ending → List UInt8
  | .lf => [0x0A]
  | .crlf => [0x0D, 0x0A]
  | .none => []

/-- A line as it stands in the source: its bytes and its terminator. -/
structure RawLine where
  /-- The bytes before the terminator. -/
  bytes : List UInt8
  /-- The terminator. -/
  ending : Ending
  deriving DecidableEq

namespace RawLine

/-- Puts a byte in front of the first line.  A carriage return in front of an empty line that
ends in a line feed joins the terminator. -/
def push (b : UInt8) : List RawLine → List RawLine
  | [] => [⟨[b], .none⟩]
  | l :: ls =>
    if b = 0x0D ∧ l = ⟨[], .lf⟩ then ⟨[], .crlf⟩ :: ls else ⟨b :: l.bytes, l.ending⟩ :: ls

/-- Cuts bytes into lines. -/
def split : List UInt8 → List RawLine
  | [] => []
  | b :: rest => if b = 0x0A then ⟨[], .lf⟩ :: split rest else push b (split rest)

end RawLine

/-- A line of a document. -/
structure Line where
  /-- The number of the line, from 1. -/
  number : Nat
  /-- The characters before the terminator. -/
  text : List Char
  /-- The terminator. -/
  ending : Ending
  /-- Whether the bytes of the line were UTF-8. -/
  isUtf8 : Bool
  deriving DecidableEq

namespace Line

/-- Decodes a line. -/
def ofRaw (number : Nat) (raw : RawLine) : Line where
  number := number
  text := Utf8.decode raw.bytes
  ending := raw.ending
  isUtf8 := Utf8.isValid raw.bytes

/-- The text without blanks at its edges. -/
def trimmed (l : Line) : List Char := Text.trim l.text

/-- The line carries no code. -/
def isBlankOrComment (l : Line) : Bool := Text.isBlankOrComment l.trimmed

/-- The bytes of the line and its terminator. -/
def render (l : Line) : List UInt8 := Utf8.encode l.text ++ l.ending.bytes

end Line

/-- A source cut into lines. -/
structure Document where
  /-- Where the source came from. -/
  path : Path
  /-- Its lines. -/
  lines : List Line

namespace Document

/-- Numbers lines from `first` on. -/
def number (first : Nat) : List RawLine → List Line
  | [] => []
  | raw :: raws => Line.ofRaw first raw :: number (first + 1) raws

/-- The document that bytes make up. -/
def ofBytes (path : Path) (bytes : List UInt8) : Document where
  path := path
  lines := number 1 (RawLine.split bytes)

/-- The language of a document. -/
def language (d : Document) : Language := d.path.language

/-- The number of lines. -/
def size (d : Document) : Nat := d.lines.length

/-- A document without lines. -/
def isEmpty (d : Document) : Bool := d.lines.isEmpty

/-- The bytes of a document. -/
def render (d : Document) : List UInt8 := d.lines.flatMap Line.render

end Document

end StyleAudit
