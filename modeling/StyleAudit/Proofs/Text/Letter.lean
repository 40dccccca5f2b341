import Mathlib.Data.List.TakeWhile
import StyleAudit.Text.Letter

/-!
# Cased letters

Capital and small letters are letters (`Text.isLetter_of_isCapital`, `Text.isLetter_of_isSmall`).
The three classes are tables of their own, and the inclusions hold since the runs of one table lie
in the intervals of another.  Both are in ascending order, so that one walk along them is enough to
see it (`CodeSet.within`).
-/

namespace StyleAudit.Text

namespace CodeSet

/-- The code points of the alternating runs, each an interval by itself. -/
def points (s : CodeSet) : List (Nat × Nat) :=
  s.alternating.flatMap fun r => (List.range' r.1 ((r.2 - r.1) / 2 + 1) 2).map fun n => (n, n)

/-- A walk that takes off the intervals that lie in those of another list; none must be left. -/
def within : List (Nat × Nat) → List (Nat × Nat) → Bool
  | rs, [] => rs.isEmpty
  | rs, q :: qs => within (rs.dropWhile fun r => q.1 ≤ r.1 && r.2 ≤ q.2) qs

theorem exists_of_within {rs qs : List (Nat × Nat)} (h : within rs qs = true) {r : Nat × Nat}
    (hr : r ∈ rs) : ∃ q ∈ qs, q.1 ≤ r.1 ∧ r.2 ≤ q.2 := by
  induction qs generalizing rs with
  | nil =>
    rw [within, List.isEmpty_iff] at h
    simp [h] at hr
  | cons q qs ih =>
    rw [within] at h
    rw [← List.takeWhile_append_dropWhile (p := fun r => q.1 ≤ r.1 && r.2 ≤ q.2) (l := rs)] at hr
    rcases List.mem_append.1 hr with hr | hr
    · -- the interval is taken off here
      have hle := List.mem_takeWhile_imp hr
      exact ⟨q, List.mem_cons_self, by simpa using hle⟩
    · obtain ⟨q', hq', hle⟩ := ih h hr
      exact ⟨q', List.mem_cons_of_mem _ hq', hle⟩

theorem contains_of_within {s t : CodeSet} (hs : within s.intervals t.intervals = true)
    (hp : within s.points t.intervals = true) {n : Nat} (h : s.contains n = true) :
    t.contains n = true := by
  suffices hin : ∃ q ∈ t.intervals, q.1 ≤ n ∧ n ≤ q.2 by
    obtain ⟨q, hq, h₁, h₂⟩ := hin
    rw [contains, Bool.or_eq_true, List.any_eq_true]
    exact .inl ⟨q, hq, by simp [h₁, h₂]⟩
  rw [contains, Bool.or_eq_true, List.any_eq_true, List.any_eq_true] at h
  simp only [Bool.and_eq_true, decide_eq_true_eq, beq_iff_eq] at h
  rcases h with ⟨r, hr, h₁, h₂⟩ | ⟨r, hr, ⟨h₁, h₂⟩, hparity⟩
  · obtain ⟨q, hq, hle⟩ := exists_of_within hs hr
    exact ⟨q, hq, by omega⟩
  · have hn : (n, n) ∈ s.points := by
      refine List.mem_flatMap.2 ⟨r, hr, List.mem_map.2 ⟨n, ?_, rfl⟩⟩
      exact List.mem_range'.2 ⟨(n - r.1) / 2, by omega, by omega⟩
    exact exists_of_within hp hn

end CodeSet

theorem isLetter_of_isCapital {c : Char} (h : isCapital c = true) : isLetter c = true := by
  unfold isCapital at h
  unfold isLetter
  split_ifs at h ⊢
  · show (c.isUpper || c.isLower) = true
    rw [h, Bool.true_or]
  · exact CodeSet.contains_of_within (by decide +kernel) (by decide +kernel) h

theorem isLetter_of_isSmall {c : Char} (h : isSmall c = true) : isLetter c = true := by
  unfold isSmall at h
  unfold isLetter
  split_ifs at h ⊢
  · show (c.isUpper || c.isLower) = true
    rw [h, Bool.or_true]
  · exact CodeSet.contains_of_within (by decide +kernel) (by decide +kernel) h

end StyleAudit.Text
