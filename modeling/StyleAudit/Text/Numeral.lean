/-!
# Numerals

Natural numbers in digits of a base up to 36.  Letters serve as digits from ten on, capital and
small ones alike.
-/

namespace StyleAudit.Text

/-- The value of a digit. -/
def digitValue? (base : Nat) (c : Char) : Option Nat :=
  let n := if c.isDigit then c.toNat - '0'.toNat
    else if 'a' ≤ c && c ≤ 'z' then c.toNat - 'a'.toNat + 10
    else if 'A' ≤ c && c ≤ 'Z' then c.toNat - 'A'.toNat + 10
    else base
  if n < base then some n else none

/-- The value of digits, if there is at least one and all are digits. -/
def natOfDigits? (base : Nat) (t : List Char) : Option Nat :=
  if t.isEmpty then none
  else t.foldl (fun acc c => acc.bind fun n => (digitValue? base c).map (n * base + ·)) (some 0)

end StyleAudit.Text
