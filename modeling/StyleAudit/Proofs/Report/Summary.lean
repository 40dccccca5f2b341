import StyleAudit.Proofs.Log.Entries
import StyleAudit.Proofs.Source.Lines
import StyleAudit.Proofs.Text.Blank
import StyleAudit.Proofs.Text.Numeral
import StyleAudit.Report.Summary

/-!
# What summaries say

The summary of a log is written from the counts and the flag of a report, the closing line on a
terminal from the severities of its findings.  In a report that is tallied the summary lists each
rule with findings once, in catalog order and with the number of its findings
(`Report.Tallied.loggedCounts_summary`), and says that there are none exactly if there are none
(`Report.Tallied.noIssues_mem_iff`).  The numbers of the closing line are those of all findings, of
errors and of warnings (`Report.numbers_summaryLine`).
-/

namespace StyleAudit.Report

variable {report : Report}

/-! ### Findings of a rule -/

/-- The number of findings of a rule. -/
def findingCount (report : Report) (r : RuleId) : Nat := report.diagnostics.countP (·.rule = r)

/-- Every finding is of one rule of the catalog. -/
theorem sum_findingCount (report : Report) :
    (RuleId.all.map report.findingCount).sum = report.diagnostics.length := by
  have hperm := report.flatMap_findingsOf_perm RuleId.all_inOrder.nodup
  have hall : report.diagnostics.filter (·.rule ∈ RuleId.all) = report.diagnostics :=
    List.filter_eq_self.2 fun f _ => by simpa using RuleId.mem_all f.rule
  rw [hall] at hperm
  rw [← hperm.length_eq, List.length_flatMap]
  refine congrArg List.sum (List.map_congr_left fun r _ => ?_)
  rw [findingCount, List.countP_eq_length_filter]
  rfl

theorem Tallied.counts_eq_map (h : report.Tallied) :
    report.counts = report.countedRules.map fun r => (r, report.findingCount r) := by
  rw [← h.map_fst_counts, List.map_map]
  conv_lhs => rw [← List.map_id report.counts]
  refine List.map_congr_left fun c hc => ?_
  have hcount := h.count_eq c.1 c.2 (h.ordered.mem_iff.1 hc)
  exact Prod.ext rfl hcount

/-- The rules with findings are listed in catalog order, with the number of their findings. -/
theorem Tallied.issueCounts_eq (h : report.Tallied) :
    report.issueCounts =
      (RuleId.all.filter fun r => 0 < report.findingCount r).map fun r =>
        (r, report.findingCount r) := by
  have hcounted : ∀ r, 0 < report.findingCount r → (report.count? r).isSome := by
    intro r hr
    obtain ⟨f, hf, hrule⟩ := List.countP_pos_iff.1 hr
    rw [← of_decide_eq_true hrule]
    exact h.counted f hf
  rw [issueCounts, h.counts_eq_map, List.filter_map, countedRules, List.filter_filter]
  refine congrArg _ (List.filter_congr fun r _ => ?_)
  by_cases hr : 0 < report.findingCount r
  · simp [hr, hcounted r hr]
  · simp [hr]

/-- Rules without findings add nothing. -/
theorem sum_filter_findingCount (report : Report) (rules : List RuleId) :
    ((rules.filter fun r => 0 < report.findingCount r).map report.findingCount).sum =
      (rules.map report.findingCount).sum := by
  induction rules with
  | nil => rfl
  | cons r rules ih =>
    by_cases hr : 0 < report.findingCount r
    · simp [hr, ih]
    · have hzero : report.findingCount r = 0 := by omega
      simp [hzero, ih]

/-! ### Severities -/

theorem countSeverity_eq (report : Report) (s : Severity) :
    report.countSeverity s = report.diagnostics.countP (·.severity = s) := by
  rw [countSeverity, ← List.countP_eq_length_filter]
  rfl

/-- Every finding is an error or a warning. -/
theorem countP_severity (found : List Diagnostic) :
    found.countP (·.severity = .error) + found.countP (·.severity = .warning) = found.length := by
  rw [List.length_eq_countP_add_countP (·.severity = .error)]
  refine congrArg _ (List.countP_congr fun f _ => ?_)
  cases f.severity <;> decide

theorem totalSeverity_eq (reports : List Report) (s : Severity) :
    totalSeverity reports s = (reports.flatMap (·.diagnostics)).countP (·.severity = s) := by
  induction reports with
  | nil => rfl
  | cons report reports ih =>
    rw [List.flatMap_cons, List.countP_append, ← ih, ← countSeverity_eq]
    rfl

/-! ### The closing line -/

theorem numbers_counted {noun : String} (h : noun.toList.any Char.isDigit = false) (n : Nat)
    (t : List Char) : Text.numbers ((counted n noun).toList ++ t) = n :: Text.numbers t := by
  have hplural : (plural n).toList.any Char.isDigit = false := by
    unfold plural
    split <;> decide
  have htext : (counted n noun).toList ++ t =
      (toString n).toList ++ ' ' :: (noun.toList ++ ((plural n).toList ++ t)) := by
    simp [counted]
  rw [htext, Text.numbers_toString n rfl, Text.numbers_append_of_notDigit h,
    Text.numbers_append_of_notDigit hplural]

/-- **The closing line counts the findings of all reports**, the errors and the warnings. -/
theorem numbers_summaryLine (reports : List Report) :
    let found := reports.flatMap (·.diagnostics)
    (Text.numbers (summaryLine reports).toList).take 3 =
      [found.length, found.countP (·.severity = .error), found.countP (·.severity = .warning)] := by
  intro found
  have hopen : " (".toList.any Char.isDigit = false := by decide
  have hcomma : ", ".toList.any Char.isDigit = false := by decide
  simp only [summaryLine, String.toList_append, List.append_assoc]
  rw [numbers_counted (by decide), Text.numbers_append_of_notDigit hopen,
    numbers_counted (by decide), Text.numbers_append_of_notDigit hcomma,
    numbers_counted (by decide), totalSeverity_eq, totalSeverity_eq, countP_severity]
  rfl

/-! ### The summary of a log -/

/-- What the summary says if there are no findings. -/
def noIssues : List Char := "No issues found after analyzing the script.".toList

/-- What a line with two words lists: a name and a number. -/
def loggedCount? (line : List Char) : Option (List Char × Nat) :=
  match Text.words line with
  | [name, numeral] => (Text.natOfDigits? 10 numeral).map (name, ·)
  | _ => none

/-- The names and numbers that a summary lists, in order. -/
def loggedCounts (s : String) : List (List Char × Nat) :=
  (Text.lines s.toList).filterMap loggedCount?

/-- The line above and below. -/
def rulerText : List Char := List.replicate 45 '-'

/-- A row, without the end of its line. -/
def rowText (name count : String) : List Char :=
  List.replicate 2 ' ' ++ name.toList ++ List.replicate (32 - name.length) ' ' ++ count.toList

/-- The row of a rule. -/
def ruleText (c : RuleId × Nat) : List Char := rowText c.1.name (toString c.2)

/-- What is listed, and the titles above it. -/
def headings : List (List Char) := ["Summary of issues observed:".toList, rowText "Check" "Count"]

/-- The lines of a summary between the rulers. -/
def summaryBody (report : Report) : List (List Char) :=
  if report.hasIssues then headings ++ report.issueCounts.map ruleText else [noIssues]

theorem summary_eq (report : Report) :
    report.summary.toList =
      (rulerText :: (report.summaryBody ++ [rulerText])).flatMap (· ++ ['\n']) := by
  have hrow (name count : String) :
      (summaryRow name count).toList = rowText name count ++ ['\n'] := by
    simp [summaryRow, padded, rowText]
  have hrows : (String.join (report.issueCounts.map fun c =>
      summaryRow c.1.name (toString c.2))).toList =
      (report.issueCounts.map ruleText).flatMap (· ++ ['\n']) := by
    rw [String.toList_join, List.flatMap_map, List.flatMap_map]
    exact List.flatMap_congr fun c _ => hrow _ _
  have hruler : ruler.toList = rulerText ++ ['\n'] :=
    Text.of_ofList (p := (· = rulerText ++ ['\n'])) ⟨_, rfl, rfl⟩
  have hend (s : String) : (s ++ "\n").toList = s.toList ++ ['\n'] := String.toList_append
  have hfirst : "Summary of issues observed:\n".toList =
      "Summary of issues observed:".toList ++ ['\n'] := hend "Summary of issues observed:"
  have hnone : "No issues found after analyzing the script.\n".toList = noIssues ++ ['\n'] :=
    hend "No issues found after analyzing the script."
  rw [summary, summaryBody]
  cases report.hasIssues with
  | true =>
    simp only [if_true, String.toList_append, hruler, hfirst, hrow, hrows, headings]
    simp
  | false => simp [hruler, hnone]

/-! ### Reading a summary -/

variable {name count : String}

/-- The name of a rule is one word, and shorter than its column. -/
theorem name_word (r : RuleId) : Text.OneWord r.name.toList ∧ r.name.length < 32 := by
  obtain ⟨t, ht, hne, hblank, hlength⟩ : ∃ t, r.name = String.ofList t ∧ t ≠ [] ∧
      t.any Text.isBlank = false ∧ t.length < 32 := by
    cases r <;> exact ⟨_, rfl, by decide⟩
  rw [ht, String.toList_ofList, String.length_ofList]
  exact ⟨⟨hne, by simpa using hblank⟩, hlength⟩

theorem words_rowText (hname : Text.OneWord name.toList) (hlength : name.length < 32)
    (hcount : Text.OneWord count.toList) :
    Text.words (rowText name count) = [name.toList, count.toList] := by
  -- at least one blank follows the name
  obtain ⟨k, hk⟩ : ∃ k, 32 - name.length = k + 1 := ⟨31 - name.length, by omega⟩
  have hfill (n : Nat) : ∀ b ∈ List.replicate n ' ', Text.isBlank b :=
    fun _ => Text.isBlank_of_mem_spaces
  rw [rowText, hk, @List.replicate_succ _ ' ' k, List.append_assoc, List.append_assoc,
    Text.words_append_of_blank (hfill 2), List.cons_append, hname.words_append_cons rfl,
    Text.words_append_of_blank (hfill k), hcount.words_eq]

theorem notMem_rowText {b : Char} (hb : Text.isBlank b) (hne : b ≠ ' ')
    (hname : Text.OneWord name.toList) (hcount : Text.OneWord count.toList) :
    b ∉ rowText name count := by
  have hword {w : List Char} (hw : Text.OneWord w) : b ∉ w := fun hmem => by
    simp [hw.not_blank b hmem] at hb
  have hfill : ∀ n, b ∉ List.replicate n ' ' := fun _ hmem => hne (List.eq_of_mem_replicate hmem)
  simp only [rowText, List.mem_append, not_or]
  exact ⟨⟨⟨hfill 2, hword hname⟩, hfill _⟩, hword hcount⟩

theorem loggedCount?_ruleText (c : RuleId × Nat) :
    loggedCount? (ruleText c) = some (c.1.name.toList, c.2) := by
  have hwords := words_rowText (name_word c.1).1 (name_word c.1).2 (Text.oneWord_toString c.2)
  simp only [loggedCount?, ruleText, hwords, Text.natOfDigits?_toString, Option.map_some]

/-- A line that lists nothing. -/
def IsRemark (t : List Char) : Prop := ('\n' ∉ t ∧ '\r' ∉ t) ∧ loggedCount? t = none

instance (t : List Char) : Decidable (IsRemark t) := inferInstanceAs (Decidable (_ ∧ _))

theorem isRemark_rulerText : IsRemark rulerText := by decide

theorem isRemark_noIssues : IsRemark noIssues := Text.of_ofList ⟨_, rfl, by decide⟩

theorem isRemark_headings : ∀ t ∈ headings, IsRemark t := by
  have hfirst : IsRemark "Summary of issues observed:".toList :=
    Text.of_ofList ⟨_, rfl, by decide⟩
  have htitles : IsRemark (rowText "Check" "Count") := by decide
  exact List.forall_mem_cons.2 ⟨hfirst, List.forall_mem_singleton.2 htitles⟩

theorem lines_summary (report : Report) :
    Text.lines report.summary.toList = rulerText :: (report.summaryBody ++ [rulerText]) := by
  have hrows : ∀ t ∈ report.issueCounts.map ruleText, '\n' ∉ t ∧ '\r' ∉ t := by
    intro t ht
    obtain ⟨c, -, rfl⟩ := List.mem_map.1 ht
    have hname := (name_word c.1).1
    have hcount := Text.oneWord_toString c.2
    exact ⟨notMem_rowText rfl (by decide) hname hcount, notMem_rowText rfl (by decide) hname hcount⟩
  have hbody : ∀ t ∈ report.summaryBody, '\n' ∉ t ∧ '\r' ∉ t := by
    unfold summaryBody
    split
    · exact List.forall_mem_append.2 ⟨fun t ht => (isRemark_headings t ht).1, hrows⟩
    · exact List.forall_mem_singleton.2 isRemark_noIssues.1
  have hruler := isRemark_rulerText.1
  rw [summary_eq, Text.lines_flatMap_lf]
  exact List.forall_mem_cons.2
    ⟨hruler, List.forall_mem_append.2 ⟨hbody, List.forall_mem_singleton.2 hruler⟩⟩

theorem Tallied.hasIssues_eq_false_iff (h : report.Tallied) :
    report.hasIssues = false ↔ report.diagnostics = [] := by
  rw [← Bool.not_eq_true, h.hasIssues_iff, not_not]

/-- **The summary lists each rule with findings once**, in catalog order and with their number. -/
theorem Tallied.loggedCounts_summary (h : report.Tallied) :
    loggedCounts report.summary =
      (RuleId.all.filter fun r => 0 < report.findingCount r).map fun r =>
        (r.name.toList, report.findingCount r) := by
  have hruler := isRemark_rulerText.2
  have hbody : report.summaryBody.filterMap loggedCount? =
      report.issueCounts.map fun c => (c.1.name.toList, c.2) := by
    unfold summaryBody
    split
    · have hheadings : headings.filterMap loggedCount? = [] :=
        List.filterMap_eq_nil_iff.2 fun t ht => (isRemark_headings t ht).2
      rw [List.filterMap_append, hheadings, List.filterMap_map, List.nil_append,
        ← List.filterMap_eq_map]
      exact List.filterMap_congr fun c _ => loggedCount?_ruleText c
    · next hissues =>
      have hnil := h.hasIssues_eq_false_iff.1 (Bool.not_eq_true _ ▸ hissues)
      rw [h.issueCounts_eq, List.filterMap_cons_none isRemark_noIssues.2]
      simp [findingCount, hnil]
  rw [loggedCounts, lines_summary, List.filterMap_cons_none hruler, List.filterMap_append, hbody,
    List.filterMap_cons_none hruler, List.filterMap_nil, List.append_nil, h.issueCounts_eq,
    List.map_map]
  rfl

/-- **The summary says that there are no issues exactly if there are no findings.** -/
theorem Tallied.noIssues_mem_iff (h : report.Tallied) :
    noIssues ∈ Text.lines report.summary.toList ↔ report.diagnostics = [] := by
  have hhead : noIssues.head? = some 'N' :=
    Text.of_ofList (p := fun t => t.head? = some 'N') ⟨_, rfl, rfl⟩
  have hne {t : List Char} (ht : t.head? ≠ some 'N') : noIssues ≠ t := fun heq => ht (heq ▸ hhead)
  have hruler : noIssues ≠ rulerText := hne (by decide)
  have hfirst : noIssues ≠ "Summary of issues observed:".toList :=
    hne (Text.of_ofList (p := fun t => t.head? ≠ some 'N') ⟨_, rfl, by decide⟩)
  have hrow (name count : String) : noIssues ≠ rowText name count := hne (by simp [rowText])
  have hrows : noIssues ∉ report.issueCounts.map ruleText := fun hmem => by
    obtain ⟨c, -, hc⟩ := List.mem_map.1 hmem
    exact hrow _ _ hc.symm
  have hheadings : noIssues ∉ headings :=
    List.not_mem_cons_of_ne_of_not_mem hfirst (by simpa using hrow "Check" "Count")
  rw [lines_summary, ← h.hasIssues_eq_false_iff, summaryBody]
  cases report.hasIssues with
  | true => simp [hruler, hheadings, hrows]
  | false => simp

end StyleAudit.Report
