import Mathlib.Data.List.Nodup
import StyleAudit.Proofs.Nesting.Reachable
import StyleAudit.Proofs.Rule.Indentation
import StyleAudit.Proofs.Rule.Order
import StyleAudit.Proofs.Settings.Accepted

/-!
# Lines that are measured

The rule on indentation measures lines with a keyword and lines of bodies at a depth
(`Rule.Measures`), and asks for the product of the width and that depth.  Depths are small: a line
is measured at less than its number, since no line opens more than one level
(`Nesting.depth?_observeAll_le`).  Widths are not: accepted thresholds may hold any count.

* `Rule.indentationSpacing_accepts` : in every document, either the product for a measured line is
  no count, and the rule has no answer, or all of them are counts, and a measured line is accepted
  iff it starts with the product;
* `Rule.indentationSpacing_overflows` : accepted thresholds do not keep the products below the
  bound.
-/

namespace StyleAudit

/-! ### Depths -/

/-- The depth that an event carries. -/
def LineEvent.depth? : LineEvent → Option Nat
  | .keyword _ depth => some depth
  | .body depth => some depth
  | _ => none

namespace Nesting

/-- A line is measured at the depth before it at most. -/
theorem depth?_step_le {keywords : List String} {depth n : Nat} {t : List Char}
    (h : ((atDepth keywords depth).step t).1.depth? = some n) : n ≤ depth := by
  rcases Nat.eq_zero_or_pos depth with rfl | hd
  · rw [step_atDepth_zero] at h
    split_ifs at h <;> cases h
  · rw [step_atDepth_pos keywords hd] at h
    split_ifs at h
    · cases h
    · split at h
      · cases h
        exact Nat.le_refl _
      · cases h
        exact Nat.sub_le _ _

/-- A line is measured at a depth that the lines before it can reach. -/
theorem depth?_observeAll_le (keywords : List String) {depth i n : Nat}
    {lines : List (List Char)} {e : LineEvent}
    (he : ((atDepth keywords depth).observeAll lines).1[i]? = some e) (hn : e.depth? = some n) :
    n ≤ depth + i := by
  induction lines generalizing depth i with
  | nil => cases he
  | cons line lines ih =>
    rw [observeAll] at he
    cases i with
    | zero =>
      cases he
      exact depth?_step_le hn
    | succ i =>
      obtain ⟨depth', hstep, hup, -⟩ := exists_step_atDepth keywords depth (Text.trim line)
      rw [List.getElem?_cons_succ, observe, hstep] at he
      have := ih he
      omega

end Nesting

namespace Rule

/-! ### Measuring -/

variable {l : Line} {e : LineEvent} {depth : Nat}

theorem depth?_of_measuredDepth? (h : measuredDepth? l e = some depth) : e.depth? = some depth := by
  cases e with
  | keyword word n => exact h
  | body n =>
    rw [measuredDepth?] at h
    split_ifs at h
    exact h
  | skipped => cases h
  | outside => cases h
  | functionOpened => cases h

/-- A measured line is right iff it starts with the spaces asked for. -/
theorem indentationProblem_eq_none_iff (h : measuredDepth? l e = some depth) (width : Nat) :
    indentationProblem width l e = none ↔ List.replicate (width * depth) ' ' <+: l.text := by
  rw [indentationProblem, h, Option.bind_some, ← le_leadingSpaces_iff, ← not_lt]
  split_ifs with hlt <;> simp [hlt]

/-! ### Findings on lines -/

/-- Where lines ascend, the findings on the line of an item are those on the item. -/
theorem forall_line_ne_iff {α : Type} {line : α → Nat} {items : List α}
    (h : Ascending line items) (r : RuleId) (problem : α → Option String) {a : α} (ha : a ∈ items) :
    (∀ f ∈ items.filterMap fun a => (problem a).map (Diagnostic.of r (line a) ·),
      f.line ≠ line a) ↔ problem a = none := by
  have hmem (f : Diagnostic) := h.mem_filterMap_iff (r := r) problem ha (f := f)
  constructor
  · intro hne
    by_contra hp
    obtain ⟨message, hm⟩ := Option.ne_none_iff_exists'.1 hp
    obtain ⟨hf, he⟩ := (hmem _).2 ⟨message, hm, rfl⟩
    exact hne _ hf he
  · intro hp f hf he
    obtain ⟨message, hm, -⟩ := (hmem f).1 ⟨hf, he⟩
    rw [hp] at hm
    cases hm

/-- **A measured line is accepted iff it starts with the spaces of its depth.**  Let a document be
loaded and a session have any thresholds.  A line is measured at a depth below its number.  The rule
overflows iff the product of the width and the depth of some measured line is no count.  It does not
fail otherwise: then each of these products is a count, and a measured line has no finding iff it
starts with as many spaces. -/
theorem indentationSpacing_accepts (probe : LeakProbe) (path : Path) (bytes : List UInt8)
    (s : Session) :
    let d := Document.ofBytes path bytes
    let width := s.thresholds.indentWidth
    let measured := d.lines.zip (s.observeAll d).1
    let answer := (evaluate probe .indentationSpacing d s).1
    (∀ p ∈ measured, ∀ depth, Measures p.1 p.2 depth →
        depth < p.1.number ∧ p.1.number ≤ d.size) ∧
      (answer = .error .overflow ↔
        ∃ p ∈ measured, ∃ depth, Measures p.1 p.2 depth ∧ 2 ^ 64 ≤ width * depth) ∧
      (answer ≠ .error .overflow → ∃ found, answer = .ok found) ∧
      ∀ found, answer = .ok found → ∀ p ∈ measured, ∀ depth, Measures p.1 p.2 depth →
        width * depth < 2 ^ 64 ∧
          ((∀ f ∈ found, f.line ≠ p.1.number) ↔
            List.replicate (width * depth) ' ' <+: p.1.text) := by
  intro d width measured answer
  have hanswer : answer = if indentationFits width d (s.observeAll d).1 then
      .ok (indentationSpacing width d (s.observeAll d).1) else .error .overflow :=
    fst_evaluateIndentation d s
  refine ⟨fun p hp depth hdepth => ?_, evaluateIndentation_eq_overflow_iff, fun h => ?_,
    fun found h p hp depth hdepth => ?_⟩
  · obtain ⟨i, hi⟩ := List.mem_iff_getElem?.1 hp
    obtain ⟨hline, hevent⟩ := List.getElem?_zip_eq_some.1 hi
    have hn : p.1.number = i + 1 := (Document.canonical_ofBytes path bytes).number i p.1 hline
    have hle : depth ≤ 0 + i :=
      Nesting.depth?_observeAll_le s.nesting.keywords hevent
        (depth?_of_measuredDepth? (measuredDepth?_eq_some_iff.2 hdepth))
    exact ⟨by omega, (Document.numbered_ofBytes path bytes p.1 (List.of_mem_zip hp).1).2⟩
  · rw [hanswer] at h ⊢
    split_ifs at h ⊢
    · exact ⟨_, rfl⟩
    · exact absurd rfl h
  · rw [hanswer] at h
    split_ifs at h with hfits
    cases h
    have hdepth := measuredDepth?_eq_some_iff.2 hdepth
    -- a finding tells its line only, and no two lines have the same number
    have hasc : Ascending (fun p : Line × LineEvent => p.1.number) measured :=
      (Document.ascending_ofBytes path bytes).of_sublist (sublist_zip _ _)
    refine ⟨indentationFits_iff.1 hfits p hp depth hdepth, ?_⟩
    exact (forall_line_ne_iff hasc .indentationSpacing
      (fun p => indentationProblem width p.1 p.2) hp).trans
        (indentationProblem_eq_none_iff hdepth width)

/-- A function body with an indented line and one that is not. -/
theorem indentationSpacing_accepts_uneven :
    let bytes := Utf8.encode "int f() \x7b\n    x;\n  y;\n\x7d\n".toList
    let d := Document.ofBytes ⟨"a.c"⟩ bytes
    let s := Session.start .c {} .ofLines .empty
    ∃ p ∈ d.lines.zip (s.observeAll d).1, ∃ q ∈ d.lines.zip (s.observeAll d).1,
      Measures p.1 p.2 1 ∧ Measures q.1 q.2 1 ∧
      ∃ found, (evaluate (fun _ _ disk => (.ok ⟨true, none⟩, disk)) .indentationSpacing d s).1 =
          .ok found ∧
        (∀ f ∈ found, f.line ≠ p.1.number) ∧ ¬ ∀ f ∈ found, f.line ≠ q.1.number := by
  intro bytes d s
  obtain ⟨-, -, hok, haccepts⟩ :=
    indentationSpacing_accepts (fun _ _ disk => (.ok ⟨true, none⟩, disk)) ⟨"a.c"⟩ bytes s
  have hsome : (evaluate (fun _ _ disk => (.ok ⟨true, none⟩, disk)) .indentationSpacing d
      s).1.toOption.isSome := by decide +kernel
  obtain ⟨found, hfound⟩ := hok fun h => by
    rw [h] at hsome
    cases hsome
  have hp : ((⟨2, "    x;".toList, .lf, true⟩, .body 1) : Line × LineEvent) ∈
      d.lines.zip (s.observeAll d).1 := by decide +kernel
  have hq : ((⟨3, "  y;".toList, .lf, true⟩, .body 1) : Line × LineEvent) ∈
      d.lines.zip (s.observeAll d).1 := by decide +kernel
  have hmp : Measures ⟨2, "    x;".toList, .lf, true⟩ (.body 1) 1 :=
    measuredDepth?_eq_some_iff.1 (by decide +kernel)
  have hmq : Measures ⟨3, "  y;".toList, .lf, true⟩ (.body 1) 1 :=
    measuredDepth?_eq_some_iff.1 (by decide +kernel)
  refine ⟨_, hp, _, hq, hmp, hmq, found, hfound,
    (haccepts found hfound _ hp 1 hmp).2.2 (by decide +kernel), fun hne => ?_⟩
  have := (haccepts found hfound _ hq 1 hmq).2.1 hne
  revert this
  decide +kernel

/-- **Accepted thresholds may overflow.**  With a width of `2 ^ 62`, the spaces that are asked for
at depth 4 are no count, and the rule has no answer, not even for the lines before. -/
theorem indentationSpacing_overflows :
    let text := "int f() \x7b\nif (a) \x7b\nif (b) \x7b\nif (c) \x7b\nx;\n\x7d\n\x7d\n\x7d\n\x7d\n"
    let t : Thresholds := { indentWidth := 0x4000000000000000 }
    let d := Document.ofBytes ⟨"a.c"⟩ (Utf8.encode text.toList)
    let s := Session.start .c t .ofLines .empty
    t.validate = .ok () ∧
      (∃ p ∈ d.lines.zip (s.observeAll d).1, Measures p.1 p.2 4 ∧ ¬ t.indentWidth * 4 < 2 ^ 64) ∧
      (evaluate (fun _ _ disk => (.ok ⟨true, none⟩, disk)) .indentationSpacing d s).1 =
        .error .overflow := by
  intro text t d s
  have hp : ((⟨5, "x;".toList, .lf, true⟩, .body 4) : Line × LineEvent) ∈
      d.lines.zip (s.observeAll d).1 := by decide +kernel
  have hm : Measures ⟨5, "x;".toList, .lf, true⟩ (.body 4) 4 :=
    measuredDepth?_eq_some_iff.1 (by decide +kernel)
  refine ⟨Thresholds.validate_eq_ok_iff.2 (by decide), ⟨_, hp, hm, by decide⟩, ?_⟩
  rw [evaluate, evaluateIndentation_eq_overflow_iff]
  exact ⟨_, hp, 4, hm, by decide⟩

end Rule

end StyleAudit
