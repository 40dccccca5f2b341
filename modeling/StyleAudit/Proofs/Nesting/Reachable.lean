import Mathlib.Data.List.DropRight
import StyleAudit.Nesting

/-!
# States that the estimate of nesting can reach

The estimate keeps a depth and a flag, and every kind of line changes them in a branch of its own.
Still, from the first state only states are reached in which the flag tells whether the depth is
positive:

* `Nesting.atDepth` is the one such state at each depth.  On these states a step is a matter of the
  depth alone (`Nesting.step_atDepth_zero`, `Nesting.step_atDepth_pos`), and it leads to another one
  of them, one level away at most (`Nesting.exists_step_atDepth`);
* so every sequence of lines and resets ends in one of them (`Nesting.exists_run_eq_atDepth`), and
  an event tells about the states before and after its line what `LineEvent.Describes` says
  (`Nesting.run_events`).
-/

namespace StyleAudit

/-- What an event tells about the states before and after its line. -/
def LineEvent.Describes (before after : Nesting) : LineEvent → Prop
  | .skipped => after = before
  | .outside => after = before
  | .functionOpened => before.depth = 0 ∧ after.depth = 1
  | .keyword _ depth => depth = before.depth ∧ 1 ≤ depth
  | .body depth =>
    before.inside = true ∧ depth = after.depth ∧ (depth = 0 ↔ after.inside = false)

namespace Nesting

/-- Every line has an event. -/
theorem length_observeAll (n : Nesting) (lines : List (List Char)) :
    (n.observeAll lines).1.length = lines.length := by
  induction lines generalizing n with
  | nil => rfl
  | cons line rest ih =>
    rw [observeAll, List.length_cons, List.length_cons, ih]

/-! ### One step -/

/-- The state at a depth whose flag tells whether the depth is positive. -/
def atDepth (keywords : List String) (depth : Nat) : Nesting := ⟨keywords, depth, depth != 0⟩

variable {keywords : List String} {depth : Nat}

@[simp] theorem depth_atDepth : (atDepth keywords depth).depth = depth := rfl

@[simp] theorem inside_atDepth : (atDepth keywords depth).inside = true ↔ 0 < depth := by
  simp [atDepth, Nat.pos_iff_ne_zero]

theorem reset_atDepth : (atDepth keywords depth).reset = atDepth keywords 0 := rfl

theorem close_atDepth (keywords : List String) (depth : Nat) (t : List Char) :
    (atDepth keywords depth).close t =
      atDepth keywords (depth - (t.contains '\x7d').toNat) := by
  unfold close
  cases hc : t.contains '\x7d' with
  | false => simp
  | true =>
    by_cases hd : 0 < depth
    · -- the flag was up, so that it is up behind the line iff a level is left
      have hne : (depth != 0) = true := by simpa using Nat.pos_iff_ne_zero.1 hd
      simp [atDepth, hd, hne]
    · obtain rfl : depth = 0 := Nat.eq_zero_of_not_pos hd
      simp

theorem enter_atDepth (keywords : List String) (hd : 0 < depth) (t : List Char) :
    (atDepth keywords depth).enter t =
      atDepth keywords (depth + (Text.endsIn '\x7b' t).toNat) := by
  have hne : (depth != 0) = true := by simpa using Nat.pos_iff_ne_zero.1 hd
  unfold enter
  cases Text.endsIn '\x7b' t with
  | false => simp
  | true => simp [atDepth, hne]

theorem step_atDepth_zero (keywords : List String) (t : List Char) :
    (atDepth keywords 0).step t =
      if Text.isBlankOrComment t then (.skipped, atDepth keywords 0)
      else if opensFunction t then (.functionOpened, atDepth keywords 1)
      else (.outside, atDepth keywords 0) := by
  unfold step
  rw [close_atDepth, Nat.zero_sub]
  rfl

theorem step_atDepth_pos (keywords : List String) (hd : 0 < depth) (t : List Char) :
    (atDepth keywords depth).step t =
      if Text.isBlankOrComment t then (.skipped, atDepth keywords depth)
      else match (atDepth keywords depth).keywordIn t with
        | some k =>
          (.keyword k depth, atDepth keywords
            (depth + (Text.endsIn '\x7b' t).toNat - (t.contains '\x7d').toNat))
        | none =>
          (.body (depth - (t.contains '\x7d').toNat),
            atDepth keywords (depth - (t.contains '\x7d').toNat)) := by
  have hi : (atDepth keywords depth).inside = true := inside_atDepth.2 hd
  unfold step
  rw [hi, enter_atDepth keywords hd, close_atDepth, close_atDepth]
  rfl

/-- A line changes the depth by one at most, and its flag keeps telling whether it is positive. -/
theorem exists_step_atDepth (keywords : List String) (depth : Nat) (t : List Char) :
    ∃ depth', ((atDepth keywords depth).step t).2 = atDepth keywords depth' ∧
      depth' ≤ depth + 1 ∧ depth ≤ depth' + 1 := by
  have ho := Bool.toNat_le (Text.endsIn '\x7b' t)
  have hc := Bool.toNat_le (t.contains '\x7d')
  rcases Nat.eq_zero_or_pos depth with rfl | hd
  · rw [step_atDepth_zero]
    split_ifs
    · exact ⟨0, rfl, by omega, by omega⟩
    · exact ⟨1, rfl, by omega, by omega⟩
    · exact ⟨0, rfl, by omega, by omega⟩
  · rw [step_atDepth_pos keywords hd]
    split_ifs
    · exact ⟨depth, rfl, by omega, by omega⟩
    · split
      · exact ⟨_, rfl, by omega, by omega⟩
      · exact ⟨_, rfl, by omega, by omega⟩

theorem step_atDepth_describes (keywords : List String) (depth : Nat) (t : List Char) :
    ((atDepth keywords depth).step t).1.Describes (atDepth keywords depth)
      ((atDepth keywords depth).step t).2 := by
  rcases Nat.eq_zero_or_pos depth with rfl | hd
  · rw [step_atDepth_zero]
    split_ifs
    · exact rfl
    · exact ⟨rfl, rfl⟩
    · exact rfl
  · rw [step_atDepth_pos keywords hd]
    split_ifs
    · exact rfl
    · split
      · exact ⟨rfl, hd⟩
      · refine ⟨inside_atDepth.2 hd, rfl, ?_⟩
        rw [← Bool.not_eq_true, inside_atDepth, Nat.pos_iff_ne_zero, not_not]

/-! ### Runs -/

/-- What is done with an estimate. -/
inductive Action where
  /-- A line is observed. -/
  | observe (line : List Char)
  /-- The estimate is reset. -/
  | reset

/-- The action observes a line. -/
def Action.isObserve : Action → Bool
  | .observe _ => true
  | .reset => false

/-- The state behind an action. -/
def act (n : Nesting) : Action → Nesting
  | .observe line => (n.observe line).2
  | .reset => n.reset

/-- The state behind actions. -/
def run (n : Nesting) (actions : List Action) : Nesting := actions.foldl act n

/-- The number of lines observed since the last reset. -/
def observedSinceReset (actions : List Action) : Nat :=
  (actions.rtakeWhile (·.isObserve)).length

theorem run_concat (n : Nesting) (actions : List Action) (a : Action) :
    n.run (actions ++ [a]) = (n.run actions).act a :=
  List.foldl_concat ..

theorem observedSinceReset_observe (actions : List Action) (line : List Char) :
    observedSinceReset (actions ++ [.observe line]) = observedSinceReset actions + 1 := by
  rw [observedSinceReset, List.rtakeWhile_concat_pos _ _ _ rfl, List.length_append]
  rfl

/-- The flag of a state that is reached tells whether its depth is positive, and the depth is
bounded by the lines since the last reset. -/
theorem exists_run_eq_atDepth (keywords : List String) (actions : List Action) :
    ∃ depth, run ⟨keywords, 0, false⟩ actions = atDepth keywords depth ∧
      depth ≤ observedSinceReset actions := by
  induction actions using List.reverseRecOn with
  | nil => exact ⟨0, rfl, Nat.zero_le _⟩
  | append_singleton actions a ih =>
    obtain ⟨depth, hrun, hle⟩ := ih
    rw [run_concat, hrun]
    cases a with
    | reset => exact ⟨0, reset_atDepth, Nat.zero_le _⟩
    | observe line =>
      obtain ⟨depth', hstep, hup, -⟩ := exists_step_atDepth keywords depth (Text.trim line)
      rw [observedSinceReset_observe]
      exact ⟨depth', hstep, by omega⟩

/-- **The flag and the depth agree in every state that is reached**, for any keywords and after any
sequence of lines and resets.  The depth is at most the number of lines since the last reset; a
further line changes it by one at most, and the event of the line tells how. -/
theorem run_events (keywords : List String) (actions : List Action) :
    let n := run ⟨keywords, 0, false⟩ actions
    (n.inside = true ↔ 0 < n.depth) ∧ n.depth ≤ observedSinceReset actions ∧
      ∀ line, (n.observe line).1.Describes n (n.observe line).2 ∧
        (n.observe line).2.depth ≤ n.depth + 1 ∧ n.depth ≤ (n.observe line).2.depth + 1 := by
  intro n
  obtain ⟨depth, hn, hle⟩ : ∃ depth, n = atDepth keywords depth ∧
      depth ≤ observedSinceReset actions := exists_run_eq_atDepth keywords actions
  rw [hn]
  refine ⟨inside_atDepth, hle, fun line => ⟨step_atDepth_describes keywords depth _, ?_⟩⟩
  obtain ⟨depth', hstep, hup, hdown⟩ := exists_step_atDepth keywords depth (Text.trim line)
  rw [observe, hstep]
  exact ⟨hup, hdown⟩

end Nesting

end StyleAudit
