/-!
# Counts

Counts of lines, spaces and the like are words of 64 bits.  Arithmetic on them is checked: a result
that is no count ends the program.
-/

namespace StyleAudit

/-- One more than the greatest count. -/
def countBound : Nat := 0x10000000000000000

end StyleAudit
