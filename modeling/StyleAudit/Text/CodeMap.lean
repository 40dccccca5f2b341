import StyleAudit.Text.Lines
import StyleAudit.Text.Numeral

/-!
# Maps of code points

A map sends some code points to short texts, their images.  Three ways to write it keep the
tables small: intervals that move as a whole, alternating runs, in which each capital letter goes
to the small letter behind it, and rows of images one after the other.
-/

namespace StyleAudit.Text

/-- A map of code points to texts. -/
structure CodeMap where
  /-- Intervals that move as a whole: the first, the last and the image of the first. -/
  shifted : List (Nat × Nat × Nat)
  /-- Runs whose first, third, fifth, … code point goes to the one behind it. -/
  alternating : List (Nat × Nat)
  /-- Rows in increasing order: a code point, and the images of it and its successors in
  hexadecimal.  Blanks divide the images, a plus joins the characters of one, and a dash keeps
  the place of a code point without image. -/
  rows : List (Nat × String)

/-- An image of a row. -/
def readImage? (image : List Char) : Option (List Char) :=
  (splitAtChar '+' image).mapM fun ds => (natOfDigits? 16 ds).map Char.ofNat

/-- The code points of a row that have an image, with their images. -/
def readRow (row : Nat × String) : List (Nat × List Char) :=
  ((splitAtChar ' ' row.2.toList).zipIdx row.1).filterMap fun (image, n) =>
    (readImage? image).map fun text => (n, text)

namespace CodeMap

/-- The image of a code point, if it has one. -/
def image? (m : CodeMap) (n : Nat) : Option (List Char) :=
  match m.shifted.find? fun r => r.1 ≤ n && n ≤ r.2.1 with
  | some r => some [Char.ofNat (r.2.2 + (n - r.1))]
  | none =>
    if m.alternating.any fun r => r.1 ≤ n && n ≤ r.2 && (n - r.1) % 2 == 0 then
      some [Char.ofNat (n + 1)]
    else
      (m.rows.filter fun row => row.1 ≤ n).getLast?.bind fun row =>
        ((splitAtChar ' ' row.2.toList)[n - row.1]?).bind readImage?

end CodeMap

end StyleAudit.Text
