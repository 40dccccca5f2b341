import StyleAudit.Proofs.Report.Drawn
import StyleAudit.Proofs.Report.Shown
import StyleAudit.Proofs.Report.Summary

/-!
# The views of a report

A report is shown as a line and as a table on a terminal, as the summary of a log and as tables of a
mail.  Each is written from another part of the report: the findings, their severities, the counts,
the flag.  On reports that are made by recording findings and failures they agree
(`Report.views_agree`).  What a view shows is read off its text.
-/

namespace StyleAudit.Report

/-! ### How a report is made -/

/-- What is recorded in a report. -/
inductive Recording where
  /-- Findings of a rule. -/
  | findings (r : RuleId) (found : List Diagnostic) (hrule : ∀ f ∈ found, f.rule = r)
  /-- The failure of a rule. -/
  | failure (r : RuleId) (e : Failure)

/-- The rule whose findings are recorded. -/
def Recording.recorded? : Recording → Option RuleId
  | .findings r _ _ => some r
  | .failure _ _ => none

/-- Adds a recording to a report. -/
def add (report : Report) : Recording → Report
  | .findings r found _ => report.record r found
  | .failure r e => report.recordFailure r e

/-- A source, and what is recorded for it. -/
structure History where
  /-- The source. -/
  path : Path
  /-- The recordings, in order. -/
  recordings : List Recording

namespace History

/-- The report that is made. -/
def report (history : History) : Report := history.recordings.foldl add (start history.path)

/-- The rules whose findings were recorded. -/
def recorded (history : History) : List RuleId := history.recordings.filterMap (·.recorded?)

theorem report_reachable (history : History) : history.report.Reachable := by
  have hfold (report : Report) (h : report.Reachable) (recordings : List Recording) :
      (recordings.foldl add report).Reachable := by
    induction recordings generalizing report with
    | nil => exact h
    | cons recording recordings ih =>
      cases recording with
      | findings r found hrule => exact ih _ (h.record hrule)
      | failure r e => exact ih _ (h.recordFailure r e)
  exact hfold _ (.start history.path) _

/-- A rule has a count exactly if its findings were recorded. -/
theorem count?_isSome_iff (history : History) (r : RuleId) :
    (history.report.count? r).isSome ↔ r ∈ history.recorded := by
  have hfold (recordings : List Recording) (report : Report) :
      r ∈ (recordings.foldl add report).counts.map Prod.fst ↔
        r ∈ report.counts.map Prod.fst ∨ r ∈ recordings.filterMap (·.recorded?) := by
    induction recordings generalizing report with
    | nil => simp
    | cons recording recordings ih =>
      rw [List.foldl_cons, ih]
      cases recording with
      | findings r' found hrule =>
        have hrecorded : (Recording.findings r' found hrule).recorded? = some r' := rfl
        rw [add, record, mem_map_fst_addCount, List.filterMap_cons_some hrecorded, List.mem_cons]
        tauto
      | failure r' e => rfl
  rw [Report.count?_isSome_iff, report, hfold]
  simp [start, recorded]

end History

/-! ### Tables -/

theorem plainCell_title (r : RuleId) : Table.PlainCell r.title := by
  cases r <;> exact .ofList (by decide)

theorem plainCell_name (r : RuleId) : Table.PlainCell r.name := by
  cases r <;> exact .ofList (by decide)

theorem plainCell_toString (n : Nat) : Table.PlainCell (toString n) where
  notMem_lf h := absurd (Text.isBlank_of_mem_toString h) (by decide)
  notMem_bar h := absurd (Text.isDigit_of_mem_toString h) (by decide)
  trim_eq := Text.trim_eq_self fun _ => Text.isBlank_of_mem_toString

theorem plainCell_countCell (report : Report) (r : RuleId) :
    Table.PlainCell (report.countCell r) := by
  unfold countCell
  split
  · exact plainCell_toString _
  · exact .ofList (by decide)

/-- The table of counts shows every rule of the catalog. -/
theorem read_countsTable (report : Report) :
    Table.read report.countsTable.draw =
      ["Check", "Rule", "Count"] ::
        RuleId.all.map fun r => [r.title, r.name, report.countCell r] := by
  have hcells (r : RuleId) : ∀ cell ∈ [r.title, r.name, report.countCell r],
      Table.PlainCell cell := by
    simpa using ⟨plainCell_title r, plainCell_name r, plainCell_countCell report r⟩
  refine Table.read_draw ⟨List.cons_ne_nil _ _, ?titles, ?rows, ?lengths⟩
  case titles =>
    have hcheck : Table.PlainCell "Check" := .ofList (by decide)
    have hrule : Table.PlainCell "Rule" := .ofList (by decide)
    have hcount : Table.PlainCell "Count" := .ofList (by decide)
    simpa [countsTable] using ⟨hcheck, hrule, hcount⟩
  case rows =>
    intro row hrow
    obtain ⟨r, -, rfl⟩ := List.mem_map.1 hrow
    exact hcells r
  case lengths =>
    intro row hrow
    obtain ⟨r, -, rfl⟩ := List.mem_map.1 hrow
    rfl

theorem History.countCell_eq (history : History) (r : RuleId) :
    history.report.countCell r =
      if r ∈ history.recorded then toString (history.report.findingCount r) else "-" := by
  have htallied := history.report_reachable.tallied
  rw [countCell]
  cases hcount : history.report.count? r with
  | none =>
    have hnot : r ∉ history.recorded := by
      rw [← history.count?_isSome_iff, hcount]
      exact Bool.false_ne_true
    exact (if_neg hnot).symm
  | some n =>
    have hmem : r ∈ history.recorded := by
      rw [← history.count?_isSome_iff, hcount]
      rfl
    rw [if_pos hmem]
    exact congrArg toString (htallied.count_eq r n hcount)

theorem label_title (r : RuleId) : Markup.Label r.title := by
  cases r <;> exact .ofList (by decide)

theorem Tallied.shownCounts_ruleMarkup {report : Report} (h : report.Tallied) :
    Markup.shownCounts report.ruleMarkup =
      RuleId.all.map fun r => (r.title.toList, report.findingCount r) := by
  have hlabels : ∀ row ∈ report.ruleCounts, Markup.Label row.1 := by
    intro row hrow
    obtain ⟨r, -, rfl⟩ := List.mem_map.1 hrow
    exact label_title r
  have hheading : Text.natOfDigits? 10 "Anomaly Frequency".toList = none := by decide
  have hfirst : Markup.Label "Code Quality Metric" := .ofList (by decide)
  have hsecond : Markup.Label "Anomaly Frequency" := .ofList (by decide)
  rw [ruleMarkup, Markup.shownCounts_countTable hfirst hsecond hheading hlabels, ruleCounts,
    List.map_map]
  refine List.map_congr_left fun r _ => ?_
  exact congrArg _ (h.getD_count? r)

theorem shownCounts_levelMarkup (report : Report) :
    Markup.shownCounts report.levelMarkup =
      [("Error".toList, report.diagnostics.countP (·.severity = .error)),
        ("Warning".toList, report.diagnostics.countP (·.severity = .warning)),
        ("Failed checks".toList, report.failures.length)] := by
  have hlabels : ∀ row ∈ report.levelCounts, Markup.Label row.1 := by
    have herror : Markup.Label "Error" := .ofList (by decide)
    have hwarning : Markup.Label "Warning" := .ofList (by decide)
    have hfailed : Markup.Label "Failed checks" := .ofList (by decide)
    simpa [levelCounts] using ⟨herror, hwarning, hfailed⟩
  have hheading : Text.natOfDigits? 10 "Count".toList = none := by decide
  have hfirst : Markup.Label "Log Level" := .ofList (by decide)
  have hsecond : Markup.Label "Count" := .ofList (by decide)
  rw [levelMarkup, Markup.shownCounts_countTable hfirst hsecond hheading hlabels, levelCounts,
    countSeverity_eq, countSeverity_eq]
  rfl

/-! ### Agreement -/

/-- What the views of a report show, if findings of some rules were recorded. -/
structure ViewsAgree (report : Report) (recorded : List RuleId) : Prop where
  /-- The summary of the log lists each rule with findings once, in catalog order. -/
  logged : loggedCounts report.summary =
    (RuleId.all.filter fun r => 0 < report.findingCount r).map fun r =>
      (r.name.toList, report.findingCount r)
  /-- The counts of the log add up to the number of findings. -/
  logged_sum : ((loggedCounts report.summary).map Prod.snd).sum = report.diagnostics.length
  /-- The log says that there are no issues if there are no findings, and only then. -/
  logged_none : noIssues ∈ Text.lines report.summary.toList ↔ report.diagnostics = []
  /-- The mail shows every rule with the number of its findings. -/
  mailed : Markup.shownCounts report.ruleMarkup =
    RuleId.all.map fun r => (r.title.toList, report.findingCount r)
  /-- The counts of the mail add up to the number of findings. -/
  mailed_sum : ((Markup.shownCounts report.ruleMarkup).map Prod.snd).sum =
    report.diagnostics.length
  /-- The errors and warnings of the mail add up to the number of findings. -/
  levels : ∃ errors warnings failed,
    Markup.shownCounts report.levelMarkup =
      [("Error".toList, errors), ("Warning".toList, warnings), ("Failed checks".toList, failed)] ∧
    errors + warnings = report.diagnostics.length
  /-- The terminal shows a count exactly for the rules with recorded findings. -/
  drawn : Table.read report.countsTable.draw =
    ["Check", "Rule", "Count"] :: RuleId.all.map fun r =>
      [r.title, r.name, if r ∈ recorded then toString (report.findingCount r) else "-"]

theorem History.viewsAgree (history : History) :
    ViewsAgree history.report history.recorded := by
  have htallied := history.report_reachable.tallied
  have hlogged := htallied.loggedCounts_summary
  have hmailed := htallied.shownCounts_ruleMarkup
  have hsum := history.report.sum_findingCount
  refine ⟨hlogged, ?_, htallied.noIssues_mem_iff, hmailed, ?_,
    ⟨_, _, _, shownCounts_levelMarkup _, countP_severity _⟩, ?_⟩
  · rw [hlogged, List.map_map, ← hsum, ← sum_filter_findingCount]
    rfl
  · rw [hmailed, List.map_map, ← hsum]
    rfl
  · rw [read_countsTable]
    simp only [history.countCell_eq]

/-- **All views of reports agree.**  The line on the terminal counts the findings of all reports,
which are its errors and its warnings.  The log, the mail and the table on the terminal show the
numbers of findings of each report. -/
theorem views_agree (histories : List History) :
    let reports := histories.map History.report
    let found := reports.flatMap (·.diagnostics)
    ((Text.numbers (summaryLine reports).toList).take 3 =
        [found.length, found.countP (·.severity = .error), found.countP (·.severity = .warning)] ∧
      found.length = found.countP (·.severity = .error) + found.countP (·.severity = .warning)) ∧
    ∀ history ∈ histories, ViewsAgree history.report history.recorded := by
  intro reports found
  refine ⟨⟨numbers_summaryLine reports, (countP_severity found).symm⟩, ?_⟩
  exact fun history _ => history.viewsAgree

end StyleAudit.Report
