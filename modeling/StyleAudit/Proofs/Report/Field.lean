import Mathlib.Data.List.Basic
import StyleAudit.Report.Basic

/-!
# Fields of findings

Reports are written with the names of rules and severities.  Both can be read back
(`RuleId.ofName?_name`, `Severity.ofName?_name`), so that different ones have different names.
-/

namespace StyleAudit

/-- The rule with a name. -/
def RuleId.ofName? (s : String) : Option RuleId := all.find? (·.name == s)

theorem RuleId.ofName?_name (r : RuleId) : ofName? r.name = some r := by
  cases r <;> decide

theorem RuleId.name_injective : Function.Injective name := fun r r' h => by
  rw [← Option.some_inj, ← ofName?_name, h, ofName?_name]

/-- The severity with a name. -/
def Severity.ofName? (s : String) : Option Severity :=
  [Severity.warning, Severity.error].find? (·.name == s)

theorem Severity.ofName?_name (s : Severity) : ofName? s.name = some s := by
  cases s <;> decide

theorem Severity.name_injective : Function.Injective name := fun s s' h => by
  rw [← Option.some_inj, ← ofName?_name, h, ofName?_name]

end StyleAudit
