/-!
# Sets of code points

A set of code points is a list of closed intervals and a list of alternating runs, which hold
every second code point.  The tables of character properties are written this way, because
capital and small letters mostly alternate.
-/

namespace StyleAudit.Text

/-- A set of code points. -/
structure CodeSet where
  /-- Closed intervals. -/
  intervals : List (Nat × Nat)
  /-- Runs that hold their first, third, fifth, … code point. -/
  alternating : List (Nat × Nat)

/-- Membership in a set of code points. -/
def CodeSet.contains (s : CodeSet) (n : Nat) : Bool :=
  s.intervals.any (fun r => r.1 ≤ n && n ≤ r.2) ||
    s.alternating.any fun r => r.1 ≤ n && n ≤ r.2 && (n - r.1) % 2 == 0

end StyleAudit.Text
