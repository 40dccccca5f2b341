import StyleAudit.Proofs.Battery.Isolation
import StyleAudit.Proofs.Rule.Indentation

/-!
# Runs whose source of declarations fails

Five rules ask for the declarations of a document.  If their source fails, the first of them that
runs gets the failure itself, the session keeps its message, and the others get a failure made from
it (`Battery.filterMap_failure?_answers`).  The remaining rules do not look at the source at all
(`Battery.filter_answers_of_keeps`), so that a source that fails takes the findings of the five
rules from the report and nothing else (`Battery.run_standard_failingSource`).

One further rule may fail in such a run, for a reason of its own: blocks without lines cannot be
searched for.  And there is no report at all if the rule on indentation overflows.
-/

namespace StyleAudit

/-- The failure of the rule on repetitions if it is asked for blocks without lines. -/
def RuleFailure.emptyBlocks : RuleFailure :=
  ⟨.repetition, "Error during modularization_repetition check: sequence length must be at least 1"⟩

/-! ### One rule -/

/-- The source of declarations fails with `e`; `asked` tells whether it was asked before. -/
def Session.Fails (s : Session) (d : Document) (e : Failure) : (asked : Bool) → Prop
  | true => s.known = some (.error e.message)
  | false => s.known = none ∧ (s.source d s.disk).1 = .error (.failure e)

/-- Who asks first gets the failure of the source, who asks later one made from its message. -/
theorem Session.declarations_of_fails {d : Document} {s : Session} {e : Failure} {asked : Bool}
    (h : s.Fails d e asked) :
    (s.declarations d).1 =
        .error (.failure (if asked then .rule "declarations" e.message else e)) ∧
      (s.declarations d).2.Fails d e true := by
  unfold Session.declarations
  cases asked with
  | true =>
    have hk : s.known = some (.error e.message) := h
    rw [hk]
    exact ⟨rfl, hk⟩
  | false =>
    obtain ⟨hk, hs⟩ := h
    rw [hk]
    exact ⟨hs, congrArg Session.kept hs⟩

namespace Rule

variable {d : Document} {s : Session} {r : RuleId} (probe : LeakProbe)

/-- Rules on names fail as the search for declarations does. -/
theorem evaluate_of_fails (hr : r ∈ RuleId.naming) {e : Failure} {asked : Bool}
    (h : s.Fails d e asked) :
    (evaluate probe r d s).1 =
        .error (.failure (if asked then .rule "declarations" e.message else e)) ∧
      (evaluate probe r d s).2.Fails d e true := by
  obtain ⟨herror, hfails⟩ := Session.declarations_of_fails h
  rcases hd : s.declarations d with ⟨x, s'⟩
  rw [hd] at herror hfails
  obtain rfl : x = _ := herror
  simp only [RuleId.naming, List.mem_cons, List.not_mem_nil, or_false] at hr
  rcases hr with rfl | rfl | rfl | rfl | rfl
  all_goals
    simp only [evaluate, onDeclarations, evaluateModule, hd]
    refine ⟨?_, hfails⟩
    first | rfl | trivial

/-- Other rules leave the source failing. -/
theorem evaluate_fails (hn : r ∉ RuleId.naming) (hl : r ≠ .memoryLeak) {e : Failure} {asked : Bool}
    (h : s.Fails d e asked) : (evaluate probe r d s).2.Fails d e asked := by
  obtain ⟨hs, hdisk, hk⟩ := evaluate_asks_nothing (d := d) (s := s) probe hn hl
  unfold Session.Fails
  rw [hs, hdisk, hk]
  exact h

/-- Of the other rules only the search for leaks and the one for blocks without lines fail. -/
theorem failure?_evaluate (hr : r ∉ RuleId.naming) (hl : r ≠ .memoryLeak) :
    Battery.failure? (r, (evaluate probe r d s).1) =
      if r = .repetition ∧ s.thresholds.sequenceLength = 0 then some .emptyBlocks else none := by
  cases r with
  | functionCase | variableCase | pointerName | moduleName | typeCase =>
    exact absurd (by decide) hr
  | memoryLeak => exact absurd rfl hl
  | indentationSpacing =>
    simp only [evaluate, fst_evaluateIndentation, reduceCtorEq, false_and, if_false]
    split_ifs <;> rfl
  | functionCount =>
    simp only [evaluate, evaluateFunctionCount, reduceCtorEq, false_and, if_false]
    split_ifs <;> rfl
  | repetition =>
    simp only [evaluate, evaluateRepetition, true_and]
    split_ifs <;> rfl
  | _ => rfl

/-- Of the other rules only the one on indentation overflows. -/
theorem evaluate_eq_overflow_iff (hn : r ∉ RuleId.naming) :
    (evaluate probe r d s).1 = .error .overflow ↔
      r = .indentationSpacing ∧ Overflows s.thresholds.indentWidth d (s.observeAll d).1 := by
  by_cases hr : r = .indentationSpacing
  · subst hr
    rw [evaluate, evaluateIndentation_eq_overflow_iff]
    exact (and_iff_right rfl).symm
  refine iff_of_false (fun h => ?_) fun h => hr h.1
  cases r with
  | functionCase | variableCase | pointerName | moduleName | typeCase =>
    exact absurd (by decide) hn
  | indentationSpacing => exact hr rfl
  | functionCount =>
    simp only [evaluate, evaluateFunctionCount] at h
    split_ifs at h
  | repetition =>
    simp only [evaluate, evaluateRepetition] at h
    split_ifs at h
    cases h
  | memoryLeak =>
    simp only [evaluate, evaluateLeak] at h
    split_ifs at h
    generalize (probe d.path s.language s.disk).1 = verdict at h
    cases verdict <;> cases h
  | _ => cases h

/-- If declarations are found, nothing overflows and blocks have lines, no rule fails but for the
search for leaks. -/
theorem exists_evaluate_eq_ok (hl : r ≠ .memoryLeak)
    (hi : r = .indentationSpacing →
      ¬ Overflows s.thresholds.indentWidth d (s.observeAll d).1)
    (hb : r = .repetition → s.thresholds.sequenceLength ≠ 0) (hk : s.known = none)
    {declared : List Declaration} (hs : (s.source d s.disk).1 = .ok declared) :
    ∃ found, (evaluate probe r d s).1 = .ok found := by
  obtain ⟨s', hd⟩ : ∃ s', s.declarations d = (.ok declared, s') := by
    simp only [Session.declarations, hk, hs]
    exact ⟨_, rfl⟩
  cases r with
  | functionCase | variableCase | pointerName | typeCase =>
    simp only [evaluate, onDeclarations, hd]
    exact ⟨_, rfl⟩
  | moduleName =>
    simp only [evaluate, evaluateModule, hd]
    exact ⟨_, rfl⟩
  | indentationSpacing =>
    rw [evaluate, fst_evaluateIndentation, if_pos (indentationFits_iff_not_overflows.2 (hi rfl))]
    exact ⟨_, rfl⟩
  | functionCount =>
    simp only [evaluate, evaluateFunctionCount]
    split_ifs <;> exact ⟨_, rfl⟩
  | repetition =>
    simp only [evaluate, evaluateRepetition, if_neg (hb rfl)]
    exact ⟨_, rfl⟩
  | memoryLeak => exact absurd rfl hl
  | _ => exact ⟨_, rfl⟩

end Rule

namespace Battery

open Session (Keeps)

variable {d : Document} {s₀ s : Session} (probe : LeakProbe)

/-! ### All rules -/

/-- What rules that fail report if the source of declarations fails with `e`; `asked` tells whether
a rule has asked for declarations before. -/
def failing (t : Thresholds) (e : Failure) (asked : Bool) : List RuleId → List RuleFailure
  | [] => []
  | r :: rules =>
    if r ∈ RuleId.naming then
      ⟨r, (if asked then .rule "declarations" e.message else e : Failure).message⟩ ::
        failing t e true rules
    else if r = .repetition ∧ t.sequenceLength = 0 then
      .emptyBlocks :: failing t e asked rules
    else failing t e asked rules

/-- The failures of a run in which the source of declarations fails. -/
theorem filterMap_failure?_answers {e : Failure} {asked : Bool} (h : s.Fails d e asked)
    {rules : List RuleId} (hl : .memoryLeak ∉ rules) :
    (answers d (rules.map (Check.catalog probe)) s).filterMap failure? =
      failing s.thresholds e asked (rules.filter (·.appliesTo d.language)) := by
  induction rules generalizing s asked with
  | nil => rfl
  | cons r rules ih =>
    obtain ⟨hr, hl⟩ := not_or.1 (mt List.mem_cons.2 hl)
    rw [answers_catalog_cons, List.filter_cons]
    split_ifs with ha
    · have ht := (Rule.evaluate_keeps (d := d) probe r (Keeps.refl s)).thresholds
      rw [List.filterMap_cons, failing]
      by_cases hn : r ∈ RuleId.naming
      · -- whether a rule asked before or not, the message is known behind this one
        obtain ⟨herror, hfails⟩ := Rule.evaluate_of_fails probe hn h
        have ih := ih hfails hl
        rw [ht] at ih
        rw [if_pos hn, herror, ← ih]
        rfl
      · have ih := ih (Rule.evaluate_fails probe hn (Ne.symm hr) h) hl
        rw [ht] at ih
        rw [if_neg hn, Rule.failure?_evaluate probe hn (Ne.symm hr), ← ih]
        split_ifs <;> rfl
    · exact ih h hl

section Keeps

variable {probe} {rules : List RuleId} (hl : .memoryLeak ∉ rules) (h : Keeps s₀ s)
include hl h

/-- The answers of rules that ask for nothing are those that each of them gives alone, with any
source of declarations. -/
theorem filter_answers_of_keeps :
    (answers d (rules.map (Check.catalog probe)) s).filter (fun a => a.1 ∉ RuleId.naming) =
      ((rules.filter (·.appliesTo d.language)).filter (· ∉ RuleId.naming)).map fun r =>
        (r, (Rule.evaluate probe r d s₀).1) := by
  induction rules generalizing s with
  | nil => rfl
  | cons r rules ih =>
    obtain ⟨hr, hl⟩ := not_or.1 (mt List.mem_cons.2 hl)
    rw [answers_catalog_cons, List.filter_cons]
    split_ifs
    · have ih := ih hl (Rule.evaluate_keeps (d := d) probe r h)
      rw [List.filter_cons, List.filter_cons]
      by_cases hn : r ∈ RuleId.naming
      · rw [if_neg (by simpa using hn), if_neg (by simpa using hn), ih]
      · rw [if_pos (by simpa using hn), if_pos (by simpa using hn), List.map_cons, ih,
          Rule.evaluate_of_keeps probe hn (Ne.symm hr) h]
    · exact ih hl h

theorem mem_answers_of_keeps {r : RuleId} (hn : r ∉ RuleId.naming) {f : Findings} :
    (r, f) ∈ answers d (rules.map (Check.catalog probe)) s ↔
      r ∈ rules.filter (·.appliesTo d.language) ∧ f = (Rule.evaluate probe r d s₀).1 := by
  have hm : (r, f) ∈ (answers d (rules.map (Check.catalog probe)) s).filter
        (fun a => a.1 ∉ RuleId.naming) ↔
      (r, f) ∈ ((rules.filter (·.appliesTo d.language)).filter (· ∉ RuleId.naming)).map fun r =>
        (r, (Rule.evaluate probe r d s₀).1) := by
    rw [filter_answers_of_keeps hl h]
  rw [List.mem_filter, and_iff_left (by simpa using hn)] at hm
  rw [hm, List.mem_map]
  constructor
  · rintro ⟨r', hr, he⟩
    obtain ⟨rfl, rfl⟩ := Prod.mk.inj he
    exact ⟨(List.mem_filter.1 hr).1, rfl⟩
  · rintro ⟨hr, rfl⟩
    exact ⟨r, List.mem_filter.2 ⟨hr, by simpa using hn⟩, rfl⟩

/-- The findings of rules that ask for nothing are those that they record alone. -/
theorem filter_diagnostics_of_keeps {report : Report}
    (hrun : (Battery.run (rules.map (Check.catalog probe)) d s).1 = some report) :
    report.diagnostics.filter (·.rule ∉ RuleId.naming) =
      ((rules.filter (·.appliesTo d.language)).filter (· ∉ RuleId.naming)).flatMap fun r =>
        recorded d (Rule.evaluate probe r d s₀).1 := by
  have hanswers := congrArg (List.flatMap fun a => recorded d a.2)
    (@filter_answers_of_keeps d s₀ s probe rules hl h)
  rw [List.flatMap_map] at hanswers
  rw [run_diagnostics hrun, ← hanswers, List.filter_flatMap]
  have hlabel (a : RuleId × Findings) (ha : a ∈ answers d (rules.map (Check.catalog probe)) s) :
      ∀ f ∈ recorded d a.2, f.rule = a.1 := by
    obtain ⟨-, -, s', -, he⟩ := exists_of_mem_answers probe (I := fun _ => True)
      (fun _ _ _ _ => trivial) trivial ha
    rw [he]
    exact fun f => mem_recorded_rule probe
  generalize answers d (rules.map (Check.catalog probe)) s = answered at hlabel
  induction answered with
  | nil => rfl
  | cons a rest ih =>
    rw [List.flatMap_cons, ih fun b hb => hlabel b (List.mem_cons_of_mem _ hb), List.filter_cons]
    have hlabel := hlabel a List.mem_cons_self
    by_cases hn : a.1 ∈ RuleId.naming
    · rw [if_neg (by simpa using hn), List.filter_eq_nil_iff.2, List.nil_append]
      intro f hf
      rw [hlabel f hf]
      simpa using hn
    · rw [if_pos (by simpa using hn), List.flatMap_cons, List.filter_eq_self.2]
      intro f hf
      rw [hlabel f hf]
      simpa using hn

end Keeps

/-! ### The standard battery -/

theorem filter_standard {l : Language} (h : l.isCFamily) :
    RuleId.standard.filter (·.appliesTo l) = RuleId.standard := by
  cases l with
  | perl => cases h
  | _ => rfl

theorem not_mem_naming_of_appliesTo_perl {r : RuleId} (h : r.appliesTo .perl) :
    r ∉ RuleId.naming := by
  cases r with
  | functionCase | variableCase | pointerName | moduleName | typeCase => cases h
  | _ => decide

theorem failing_standard (t : Thresholds) (e : Failure) :
    failing t e false RuleId.standard =
      ⟨.functionCase, e.message⟩ ::
        (([.variableCase, .pointerName, .moduleName, .typeCase] : List RuleId).map fun r =>
          (⟨r, "Error during declarations check: " ++ e.message⟩ : RuleFailure)) ++
        if t.sequenceLength = 0 then [.emptyBlocks] else [] := by
  obtain ⟨_, _, length, _, _, _⟩ := t
  cases length with
  | zero => rfl
  | succ length => rfl

theorem failing_perl (t : Thresholds) (e : Failure) :
    failing t e false (RuleId.standard.filter (·.appliesTo .perl)) =
      if t.sequenceLength = 0 then [.emptyBlocks] else [] := by
  obtain ⟨_, _, length, _, _, _⟩ := t
  cases length with
  | zero => rfl
  | succ length => rfl

/-- If the source of declarations fails, it fails for every rule of the standard battery. -/
theorem exists_fails_of_mem_answers {e : Failure} (he : s.Fails d e false) {r : RuleId}
    {f : Findings} (h : (r, f) ∈ answers d (standard probe) s) :
    r ∈ RuleId.standard ∧ r.appliesTo d.language ∧
      ∃ s', (∃ asked, s'.Fails d e asked) ∧ f = (Rule.evaluate probe r d s').1 := by
  refine exists_of_mem_answers probe (I := fun s => ∃ asked, s.Fails d e asked)
    (fun r hr s ⟨asked, hs⟩ => ?_) ⟨false, he⟩ h
  by_cases hn : r ∈ RuleId.naming
  · exact ⟨true, (Rule.evaluate_of_fails probe hn hs).2⟩
  · exact ⟨asked, Rule.evaluate_fails probe hn
      (ne_of_mem_of_not_mem hr not_mem_standard_memoryLeak) hs⟩

/-- If the source of declarations fails, the standard battery has no report iff the rule on
indentation overflows. -/
theorem run_standard_eq_none_iff {e : Failure} (he : s.Fails d e false) :
    ((standard probe).run d s).1 = none ↔
      Rule.Overflows s.thresholds.indentWidth d (s.observeAll d).1 := by
  rw [standard, run_eq_none_iff]
  constructor
  · rintro ⟨r, hr⟩
    by_cases hn : r ∈ RuleId.naming
    · -- rules on names fail, and so do not overflow
      obtain ⟨-, -, s', ⟨asked, hs'⟩, hanswer⟩ := exists_fails_of_mem_answers probe he hr
      rw [(Rule.evaluate_of_fails probe hn hs').1] at hanswer
      cases hanswer
    · have h := ((mem_answers_of_keeps not_mem_standard_memoryLeak (.refl s) hn).1 hr).2
      exact ((Rule.evaluate_eq_overflow_iff probe hn).1 h.symm).2
  · intro h
    refine ⟨.indentationSpacing, (mem_answers_of_keeps not_mem_standard_memoryLeak (.refl s)
      (by decide)).2 ⟨?_, ?_⟩⟩
    · cases d.language <;> decide
    · exact ((Rule.evaluate_eq_overflow_iff probe (by decide)).2 ⟨rfl, h⟩).symm

section Report

variable {e : Failure} (he : s.Fails d e false) {report : Report}
  (h : ((standard probe).run d s).1 = some report)
include he h

/-- The failures of a report, if the source of declarations fails. -/
theorem run_standard_failures :
    report.failures =
      failing s.thresholds e false (RuleId.standard.filter (·.appliesTo d.language)) := by
  rw [run_failures h]
  exact filterMap_failure?_answers probe he not_mem_standard_memoryLeak

/-- Rules on names have no counts if the source of declarations fails. -/
theorem run_standard_naming_count? {r : RuleId} (hr : r ∈ RuleId.naming) :
    report.count? r = none := by
  rw [← Option.not_isSome_iff_eq_none, run_count?_isSome h]
  rintro ⟨found, hm⟩
  obtain ⟨-, -, s', ⟨asked, hs'⟩, hanswer⟩ := exists_fails_of_mem_answers probe he hm
  rw [(Rule.evaluate_of_fails probe hr hs').1] at hanswer
  cases hanswer

/-- Rules on names have no findings if the source of declarations fails. -/
theorem run_standard_rule_not_mem_naming :
    ∀ f ∈ report.diagnostics, f.rule ∉ RuleId.naming := by
  intro f hf hr
  have hc := (run_consistent (catalog_ownLabel probe RuleId.standard d) h).counted f hf
  rw [run_standard_naming_count? probe he h hr] at hc
  cases hc

end Report

/-- Rules that ask for nothing have the same counts and the same findings in reports of runs that
differ in what rules do not keep. -/
theorem run_standard_other {s' : Session} (hs : Keeps s₀ s) (hs' : Keeps s₀ s')
    {report report' : Report} (h : ((standard probe).run d s).1 = some report)
    (h' : ((standard probe).run d s').1 = some report') :
    (∀ r, r ∉ RuleId.naming → report.count? r = report'.count? r) ∧
      report.diagnostics.filter (·.rule ∉ RuleId.naming) =
        report'.diagnostics.filter (·.rule ∉ RuleId.naming) := by
  have hd : report.diagnostics.filter (·.rule ∉ RuleId.naming) =
      report'.diagnostics.filter (·.rule ∉ RuleId.naming) := by
    rw [filter_diagnostics_of_keeps not_mem_standard_memoryLeak hs h,
      filter_diagnostics_of_keeps not_mem_standard_memoryLeak hs' h']
  refine ⟨fun r hr => ?_, hd⟩
  have hc := run_consistent (catalog_ownLabel probe RuleId.standard d) h
  have hc' := run_consistent (catalog_ownLabel probe RuleId.standard d) h'
  refine hc.tallied.count?_eq hc'.tallied ?_ ?_
  · rw [run_count?_isSome h, run_count?_isSome h']
    simp only [standard, mem_answers_of_keeps not_mem_standard_memoryLeak hs hr,
      mem_answers_of_keeps not_mem_standard_memoryLeak hs' hr]
  · -- findings of the rule are among those that are the same
    have hcount := congrArg (List.countP (·.rule = r)) hd
    rw [List.countP_filter, List.countP_filter] at hcount
    have hand (f : Diagnostic) :
        (decide (f.rule = r) && decide (f.rule ∉ RuleId.naming)) = decide (f.rule = r) := by
      by_cases hf : f.rule = r
      · simp [hf, hr]
      · simp [hf]
    simpa only [hand] using hcount

/-- In Perl, the answers are the same in all sessions that differ in what rules do not keep. -/
theorem answers_standard_of_perl (hl : d.language = .perl) (h : Keeps s₀ s) :
    answers d (standard probe) s =
      (RuleId.standard.filter (·.appliesTo .perl)).map fun r =>
        (r, (Rule.evaluate probe r d s₀).1) := by
  have hanswers := @filter_answers_of_keeps d s₀ s probe _ not_mem_standard_memoryLeak h
  rw [List.filter_eq_self.2, hl] at hanswers
  · exact hanswers
  · -- no rule on names applies
    intro a ha
    obtain ⟨-, happlies, -⟩ := exists_of_mem_answers probe (I := fun _ => True)
      (fun _ _ _ _ => trivial) trivial ha
    exact decide_eq_true (not_mem_naming_of_appliesTo_perl (hl ▸ happlies))

/-- **A source of declarations that fails costs the rules on names and nothing else.**  On a source
in C, C++ or a header, there is a report unless the rule on indentation overflows.  All five rules
on names fail in it, in catalog order: the first one with the message of the source, the others with
one that repeats it.  They have no counts; the other rules have the counts and findings that they
have with any other source of declarations that lets the run end in a report.  On a source in Perl,
the report does not depend on the source of declarations at all.  In both cases the rule on
repetitions fails, too, if it is to search for blocks without lines, and no other rule does. -/
theorem run_standard_failingSource (d : Document) (language : Language) (t : Thresholds)
    (keywords : List String) (source : DeclarationSource) (disk : Disk) :
    let session := fun source : DeclarationSource =>
      Session.fresh language t source keywords disk
    let report? := fun source : DeclarationSource => ((standard probe).run d (session source)).1
    let unsearchable : List RuleFailure := if t.sequenceLength = 0 then [.emptyBlocks] else []
    (∀ e, d.language.isCFamily → (source d disk).1 = .error (.failure e) →
      (report? source = none ↔
          Rule.Overflows t.indentWidth d ((session source).observeAll d).1) ∧
        ∀ report, report? source = some report →
          report.failures =
              ⟨.functionCase, e.message⟩ ::
                (([.variableCase, .pointerName, .moduleName, .typeCase] : List RuleId).map fun r =>
                  (⟨r, "Error during declarations check: " ++ e.message⟩ : RuleFailure)) ++
                unsearchable ∧
            (∀ r ∈ RuleId.naming, report.count? r = none) ∧
            ∀ source' report', report? source' = some report' →
              (∀ r, r ∉ RuleId.naming → report.count? r = report'.count? r) ∧
                report.diagnostics =
                  report'.diagnostics.filter (·.rule ∉ RuleId.naming)) ∧
      (d.language = .perl →
        (report? source = none ↔
            Rule.Overflows t.indentWidth d ((session source).observeAll d).1) ∧
          (∀ report, report? source = some report → report.failures = unsearchable) ∧
          ∀ source', report? source' = report? source) := by
  intro session report? unsearchable
  have hkeeps (source source' : DeclarationSource) : Keeps (session source) (session source') :=
    ⟨rfl, rfl, rfl⟩
  refine ⟨fun e hl he => ?_, fun hl => ?_⟩
  · have hfails : (session source).Fails d e false := ⟨rfl, he⟩
    refine ⟨run_standard_eq_none_iff probe hfails, fun report h => ⟨?_, fun r hr =>
      run_standard_naming_count? probe hfails h hr, fun source' report' h' => ?_⟩⟩
    · rw [run_standard_failures probe hfails h, filter_standard hl, failing_standard]
      rfl
    · obtain ⟨hcounts, hd⟩ :=
        run_standard_other probe (.refl (session source)) (hkeeps source source') h h'
      refine ⟨hcounts, hd ▸ (List.filter_eq_self.2 fun f hf => ?_).symm⟩
      exact decide_eq_true (run_standard_rule_not_mem_naming probe hfails h f hf)
  · have hsame : ∀ source', report? source' = report? source := fun source' => by
      simp only [report?, run_eq_foldlM_note,
        answers_standard_of_perl probe hl (hkeeps source source'),
        answers_standard_of_perl probe hl (hkeeps source source)]
    -- since the source does not matter, take one that fails
    let missing : DeclarationSource := fun _ disk => (.error (.failure (.rule "" "")), disk)
    have hfails : (session missing).Fails d (.rule "" "") false := ⟨rfl, rfl⟩
    refine ⟨?_, fun report h => ?_, hsame⟩
    · rw [← hsame missing]
      exact run_standard_eq_none_iff probe hfails
    · rw [run_standard_failures probe hfails ((hsame missing).trans h), hl, failing_perl]
      rfl

/-- A declaration with two spaces in a row, read as C and as Perl, and a preprocessor that is
missing. -/
theorem run_standard_failingSource_missingTool :
    let c := Document.ofBytes ⟨"a.c"⟩ (Utf8.encode "int  A;\n".toList)
    let perl := Document.ofBytes ⟨"a.pl"⟩ (Utf8.encode "int  A;\n".toList)
    let source : DeclarationSource := fun _ disk =>
      (.error (.failure (.tool "cpp" "missing")), disk)
    let report? := fun (d : Document) (source : DeclarationSource) =>
      ((standard fun _ _ disk => (.ok ⟨true, none⟩, disk)).run d
        (Session.fresh .c {} source [] .empty)).1
    c.language.isCFamily ∧ perl.language = .perl ∧
      (∃ report report', report? c source = some report ∧ report? c .ofLines = some report' ∧
        report.failures.map (·.message) =
          "Subprocess 'cpp' failed: missing" ::
            List.replicate 4
              "Error during declarations check: Subprocess 'cpp' failed: missing" ∧
        report.diagnostics = report'.diagnostics.filter (·.rule ∉ RuleId.naming)) ∧
      ∃ report, report? perl source = some report ∧ report.failures = [] ∧
        report? perl .ofLines = report? perl source := by
  intro c perl source report?
  have hc : c.language.isCFamily := by decide +kernel
  have hp : perl.language = .perl := by decide +kernel
  have h := fun d =>
    run_standard_failingSource (fun _ _ disk => (.ok ⟨true, none⟩, disk)) d .c {} [] source .empty
  obtain ⟨report, hrun⟩ : ∃ report, report? c source = some report :=
    Option.isSome_iff_exists.1 (by decide +kernel)
  obtain ⟨report', hrun'⟩ : ∃ report, report? c .ofLines = some report :=
    Option.isSome_iff_exists.1 (by decide +kernel)
  obtain ⟨reportPerl, hrunPerl⟩ : ∃ report, report? perl source = some report :=
    Option.isSome_iff_exists.1 (by decide +kernel)
  obtain ⟨hfailures, -, hsame⟩ := ((h c).1 (.tool "cpp" "missing") hc rfl).2 report hrun
  obtain ⟨-, hnone, hequal⟩ := (h perl).2 hp
  have hmessages := congrArg (List.map (·.message)) hfailures
  exact ⟨hc, hp, ⟨report, report', hrun, hrun', hmessages.trans rfl, (hsame _ _ hrun').2⟩,
    reportPerl, hrunPerl, hnone reportPerl hrunPerl, hequal _⟩

/-- A source of declarations that fails, and blocks without lines: not only the rules on names fail,
and in Perl one rule does. -/
theorem run_standard_fails_beyond_naming :
    let report? := fun path : Path =>
      ((standard fun _ _ disk => (.ok ⟨true, none⟩, disk)).run
        (Document.ofBytes path (Utf8.encode "int A;\n".toList))
        (Session.start path.language { sequenceLength := 0 }
          (fun _ disk => (.error (.failure (.tool "cpp" "missing")), disk)) .empty)).1
    (report? ⟨"a.c"⟩).map (fun report => report.failures.map (·.rule)) =
        some (RuleId.naming ++ [.repetition]) ∧
      (report? ⟨"a.pl"⟩).map (·.failures) = some [.emptyBlocks] := by
  decide +kernel

end Battery

end StyleAudit
