import StyleAudit.Proofs.Battery.Isolation
import StyleAudit.Proofs.Rule.Order

/-!
# Order of reports

A report lists findings by the position of their rule in the catalog, and those of one rule by
line (`Battery.ofSettings_run_ordered`).  The settings choose rules in catalog order
(`Battery.exists_ofSettings_eq`), a run records the findings of one rule after those of another, and
within a rule lines ascend.
-/

namespace StyleAudit

/-- A finding stands before another one: its rule comes first in the catalog, or the rules are the
same and its line comes first. -/
def Diagnostic.Before (f g : Diagnostic) : Prop :=
  Prod.Lex (· < ·) (· < ·) (f.rule.rank, f.line) (g.rule.rank, g.line)

namespace Diagnostic.Before

theorem of_line_lt {f g : Diagnostic} (hr : f.rule = g.rule) (hl : f.line < g.line) :
    f.Before g := by
  rw [Before, hr]
  exact .right _ hl

theorem line_lt {f g : Diagnostic} (hr : f.rule = g.rule) (h : f.Before g) : f.line < g.line := by
  rw [Before, hr, Prod.lex_def] at h
  rcases h with h | ⟨-, h⟩
  · exact absurd h (Nat.lt_irrefl _)
  · exact h

end Diagnostic.Before

namespace Battery

open Session (Follows)

variable {d : Document} {s : Session} (probe : LeakProbe)

/-- The settings choose rules of the catalog, in its order. -/
theorem exists_ofSettings_eq (settings : Settings) :
    ∃ rules, RuleId.InOrder rules ∧
      ofSettings settings probe = rules.map (Check.catalog probe) := by
  unfold ofSettings
  split_ifs
  · exact ⟨RuleId.all, RuleId.all_inOrder, rfl⟩
  · exact ⟨RuleId.standard, RuleId.all_inOrder.sublist List.filter_sublist, rfl⟩

theorem recorded_ascending {f : Findings}
    (h : ∀ found, f = .ok found → Ascending Diagnostic.line found) :
    Ascending Diagnostic.line (recorded d f) := by
  cases f with
  | error e => exact .nil
  | ok found => exact (h found rfl).filter _

/-- If each rule makes its findings on ascending lines wherever rules may have left it, a run of
rules in catalog order lists all findings in order. -/
theorem run_catalog_ordered (h₀ : s.known = none)
    (hf : ∀ s', Follows probe d s s' → ∀ r found, (Rule.evaluate probe r d s').1 = .ok found →
      Ascending Diagnostic.line found)
    {rules : List RuleId} (hr : RuleId.InOrder rules) {report : Report}
    (h : (Battery.run (rules.map (Check.catalog probe)) d s).1 = some report) :
    report.diagnostics.Pairwise Diagnostic.Before := by
  rw [run_diagnostics h, List.pairwise_flatMap]
  have hanswer : ∀ a ∈ answers d (rules.map (Check.catalog probe)) s,
      Ascending Diagnostic.line (recorded d a.2) ∧ ∀ f ∈ recorded d a.2, f.rule = a.1 := by
    intro a ha
    obtain ⟨-, -, s', hs', he⟩ := exists_of_mem_answers probe (I := Follows probe d s)
      (fun r _ _ hs => Rule.evaluate_follows r hs) (.refl h₀) ha
    rw [he]
    exact ⟨recorded_ascending (hf s' hs' a.1), fun f => mem_recorded_rule probe⟩
  constructor
  · intro a ha
    obtain ⟨hasc, hrule⟩ := hanswer a ha
    refine List.Pairwise.imp_of_mem (fun hf hg hlt => ?_) hasc
    exact .of_line_lt ((hrule _ hf).trans (hrule _ hg).symm) hlt
  · have hranks : (answers d (rules.map (Check.catalog probe)) s).Pairwise
        fun a b => a.1.rank < b.1.rank := by
      rw [← List.pairwise_map (f := Prod.fst) (R := fun r r' : RuleId => r.rank < r'.rank),
        map_fst_answers, List.filter_map, List.map_map]
      exact List.pairwise_map.2 (List.Pairwise.filter _ hr)
    refine hranks.imp_of_mem fun ha hb hlt f hf g hg => .left _ _ ?_
    rw [(hanswer _ ha).2 f hf, (hanswer _ hb).2 g hg]
    exact hlt

theorem pairwise_line_of_before {found : List Diagnostic} (h : found.Pairwise Diagnostic.Before)
    (r : RuleId) : ((found.filter (·.rule = r)).map (·.line)).Pairwise (· < ·) := by
  refine List.pairwise_map.2 (List.Pairwise.imp_of_mem (fun hf hg hb => ?_) (h.filter _))
  have hf := (List.mem_filter.1 hf).2
  have hg := (List.mem_filter.1 hg).2
  rw [decide_eq_true_eq] at hf hg
  exact Diagnostic.Before.line_lt (hf.trans hg.symm) hb

/-- **Reports are strictly ordered.**  Let a document be loaded from any bytes, with declarations
from its lines, and let the settings ask for the search for leaks or not.  Then a report lists
findings strictly in the order of the catalog and, within a rule, of lines; so no rule reports a
line twice, and the lines of each rule ascend. -/
theorem ofSettings_run_ordered (settings : Settings) (path : Path) (bytes : List UInt8)
    (language : Language) (t : Thresholds) (keywords : List String) (disk : Disk) :
    let d := Document.ofBytes path bytes
    let s := Session.fresh language t .ofLines keywords disk
    ∀ report, ((ofSettings settings probe).run d s).1 = some report →
      report.diagnostics.Pairwise Diagnostic.Before ∧
        ∀ r, ((report.diagnostics.filter (·.rule = r)).map (·.line)).Pairwise (· < ·) := by
  intro d s report hrun
  have hd : Ascending Line.number d.lines := Document.ascending_ofBytes path bytes
  have hf : ∀ s', Follows probe d s s' → ∀ r found, (Rule.evaluate probe r d s').1 = .ok found →
      Ascending Diagnostic.line found := by
    refine fun s' hs' r found => Rule.evaluate_ascending hd fun declared h => ?_
    obtain ⟨_, hdeclared, -⟩ := hs'.exists_declarations rfl
    rw [hdeclared] at h
    cases h
    exact Document.ascending_declarations hd
  have h : report.diagnostics.Pairwise Diagnostic.Before := by
    obtain ⟨rules, hr, he⟩ := exists_ofSettings_eq probe settings
    rw [he] at hrun
    exact run_catalog_ordered probe rfl hf hr hrun
  exact ⟨h, pairwise_line_of_before h⟩

/-- Seven rules, with several findings on one line and the search for leaks at the end. -/
theorem ofSettings_run_ordered_leaking :
    let d := Document.ofBytes ⟨"a.c"⟩ (Utf8.encode "\tint  a; \nint b; \n".toList)
    let settings : Settings := { leakCheck := { enabled := true } }
    let probe : LeakProbe := fun _ _ disk => (.ok ⟨false, none⟩, disk)
    let s := Session.fresh .c {} .ofLines [] .empty
    let places : List (RuleId × Nat) :=
      [(.includeDirective, 1), (.indentationTabs, 1), (.variableCase, 1), (.variableCase, 2),
        (.functionCount, 1), (.closingBrace, 2), (.excessWhitespace, 1), (.trailingWhitespace, 1),
        (.trailingWhitespace, 2), (.memoryLeak, 1)]
    ∃ report, ((ofSettings settings probe).run d s).1 = some report ∧
      report.diagnostics.map (fun f => (f.rule, f.line)) = places ∧
      report.diagnostics.Pairwise Diagnostic.Before := by
  intro d settings probe s places
  obtain ⟨report, hrun⟩ : ∃ report, ((ofSettings settings probe).run d s).1 = some report :=
    Option.isSome_iff_exists.1 (by decide +kernel)
  have hplaces : ((ofSettings settings probe).run d s).1.map
      (fun report => report.diagnostics.map fun f => (f.rule, f.line)) = some places := by
    decide +kernel
  rw [hrun] at hplaces
  exact ⟨report, hrun, Option.some.inj hplaces,
    (ofSettings_run_ordered probe settings ⟨"a.c"⟩ _ .c {} [] .empty report hrun).1⟩

end Battery

end StyleAudit
