import Mathlib.Tactic.SplitIfs
import StyleAudit.Command.Args
import StyleAudit.Settings.Load

/-!
# Thresholds that are accepted

`Thresholds.validate` accepts thresholds with blocks of at least one line, at least two occurrences,
and bounds on the number of functions that do not cross (`Thresholds.validate_eq_ok_iff`).  Settings
from a file pass it before they are returned, whether the file is named or searched for
(`Disk.loadSettings_validate`), and arguments of the command line override only the number of lines,
which it does not look at (`CheckArgs.validate_override`).
-/

namespace StyleAudit

theorem Thresholds.validate_eq_ok_iff {t : Thresholds} :
    t.validate = .ok () ↔
      0 < t.sequenceLength ∧ 2 ≤ t.repetitionThreshold ∧ t.minFunctions ≤ t.maxFunctions := by
  unfold validate problem?
  split_ifs with h₁ h₂ h₃
  all_goals simp; omega

theorem Thresholds.validate_default : ({} : Thresholds).validate = .ok () :=
  validate_eq_ok_iff.2 (by decide)

/-- Arguments of the command line leave accepted thresholds acceptable. -/
theorem CheckArgs.validate_override (args : CheckArgs) (s : Settings) :
    (args.override s).thresholds.validate = s.thresholds.validate :=
  rfl

/-- A sequence of steps succeeds iff each of them does. -/
theorem bind_eq_ok {ε α β : Type} {x : Except ε α} {f : α → Except ε β} {b : β} :
    (x >>= f) = .ok b ↔ ∃ a, x = .ok a ∧ f a = .ok b := by
  cases x <;> simp [bind, Except.bind]

namespace Disk

variable {d : Disk} {p : Path} {s : Settings}

theorem readSettings_validate (h : d.readSettings p = .ok s) :
    s.thresholds.validate = .ok () := by
  rw [readSettings] at h
  obtain ⟨text, -, h⟩ := bind_eq_ok.1 h
  obtain ⟨s', -, h⟩ := bind_eq_ok.1 h
  obtain ⟨⟨⟩, hv, h⟩ := bind_eq_ok.1 h
  cases h
  exact hv

theorem settingsAt_validate (h : d.settingsAt p = .ok (some s)) :
    s.thresholds.validate = .ok () := by
  rw [settingsAt] at h
  split_ifs at h
  · cases hr : d.readSettings p with
    | error e => rw [hr] at h; cases h
    | ok s' =>
      rw [hr] at h
      cases h
      exact readSettings_validate hr
  · cases h

theorem firstSettings_validate {ps : List Path} (h : d.firstSettings ps = .ok (some (p, s))) :
    s.thresholds.validate = .ok () := by
  induction ps with
  | nil => cases h
  | cons q ps ih =>
    rw [firstSettings] at h
    split at h
    · cases h
    · rename_i s' hs
      cases h
      exact settingsAt_validate hs
    · exact ih h

/-- **Settings that were loaded have usable thresholds.** -/
theorem loadSettings_validate {config : Option Path}
    (h : d.loadSettings config = .ok (some (p, s))) : s.thresholds.validate = .ok () := by
  cases config with
  | none => exact firstSettings_validate h
  | some q =>
    rw [loadSettings, namedSettings] at h
    split at h
    · cases h
    · rename_i s' hs
      cases h
      exact settingsAt_validate hs
    · cases h

end Disk

end StyleAudit
