import StyleAudit.Log
import StyleAudit.Proofs.Disk.Tree
import StyleAudit.Proofs.Report.Tally
import StyleAudit.Proofs.Text.Utf8

/-!
# Entries of logs

A log is written rule by rule: for each rule with a count, its findings and then the count.  So a
finding of a rule without a count would be missing, and a count could differ from the number of
findings above it.  Neither happens in reports that are tallied (`Report.Tallied.logged_eq`,
`Report.Tallied.filter_logged_perm`), and every report that is made step by step is
(`Report.logEntries_complete`).

What stands in a log is said apart from how it is written: `Report.logged` lists the entries of a
report, and `Report.loggedSummary` is the block behind them.  They reach the disk by appending them
to one file, each behind what was written before; `Disk.appendReport_eq` and `Disk.appendSummary_eq`
say so for the whole disk.
-/

namespace StyleAudit

namespace Report

variable {report : Report}

/-! ### Findings by rule -/

/-- Grouping the findings by rules reorders them and loses none of these rules. -/
theorem flatMap_findingsOf_perm (report : Report) {rules : List RuleId} (h : rules.Nodup) :
    (rules.flatMap report.findingsOf).Perm (report.diagnostics.filter (·.rule ∈ rules)) := by
  induction rules with
  | nil => simp
  | cons r rules ih =>
    obtain ⟨hr, h⟩ := List.nodup_cons.1 h
    have hsplit := List.filter_append_perm (·.rule == r)
      (report.diagnostics.filter (·.rule ∈ r :: rules))
    have hfirst : (report.diagnostics.filter (·.rule ∈ r :: rules)).filter (·.rule == r) =
        report.findingsOf r := by
      rw [List.filter_filter]
      refine List.filter_congr fun f _ => ?_
      by_cases hf : f.rule = r <;> simp [hf]
    have hrest : (report.diagnostics.filter (·.rule ∈ r :: rules)).filter (fun f => !f.rule == r) =
        report.diagnostics.filter (·.rule ∈ rules) := by
      rw [List.filter_filter]
      refine List.filter_congr fun f _ => ?_
      by_cases hf : f.rule = r
      · simp [hf, hr]
      · simp [hf]
    rw [hfirst, hrest] at hsplit
    rw [List.flatMap_cons]
    exact ((ih h).append_left _).trans hsplit

/-- The rules with a count, in catalog order. -/
def countedRules (report : Report) : List RuleId :=
  RuleId.all.filter fun r => (report.count? r).isSome

theorem Tallied.map_fst_counts (h : report.Tallied) :
    report.counts.map Prod.fst = report.countedRules := by
  refine h.ordered.inOrder.eq_of_mem_iff (List.Pairwise.filter _ RuleId.all_inOrder) fun r => ?_
  rw [countedRules, List.mem_filter, count?_isSome_iff]
  exact (and_iff_right (RuleId.mem_all r)).symm

theorem Tallied.count_eq_length (h : report.Tallied) {c : RuleId × Nat} (hc : c ∈ report.counts) :
    c.2 = (report.findingsOf c.1).length := by
  rw [h.count_eq c.1 c.2 (h.ordered.mem_iff.1 hc), List.countP_eq_length_filter]
  rfl

end Report

/-! ### What a log holds -/

/-- The level with which findings of a severity stand in a log. -/
def Severity.logged : Severity → String
  | .warning => "WARNING"
  | .error => "ERROR"

theorem Severity.logged_eq_warning_iff {s : Severity} : s.logged = "WARNING" ↔ s = .warning := by
  cases s <;> decide

theorem Severity.logged_eq_error_iff {s : Severity} : s.logged = "ERROR" ↔ s = .error := by
  cases s <;> decide

/-- The level and the message with which a finding stands in a log. -/
def Diagnostic.logged (f : Diagnostic) : String × String :=
  (f.severity.logged,
    "line " ++ toString f.line ++ ": [" ++ f.rule.name ++ "] " ++ f.message)

/-- The level and the message with which a failure stands in a log. -/
def RuleFailure.logged (f : RuleFailure) : String × String :=
  ("ERROR", "[" ++ f.rule.name ++ "] " ++ f.message)

/-- The text of entries one after the other: the time, the level and the message. -/
def LogEntry.written (clock : Clock) (entries : List (String × String)) : String :=
  String.join (entries.mapIdx fun i entry =>
    (clock i).stamp ++ " - " ++ entry.1 ++ " - " ++ entry.2 ++ "\n")

namespace Report

/-- The entries of a report, by level and message: the findings of a rule with a count stand
together and before the count. -/
def logged (report : Report) : List (String × String) :=
  ("INFO", "Starting Script Analysis.") ::
    (report.counts.flatMap fun c =>
      (report.diagnostics.filter (·.rule = c.1)).map Diagnostic.logged ++
        [("INFO", c.1.title ++ " completed - Count: " ++ toString c.2)]) ++
    report.failures.map RuleFailure.logged ++ [("INFO", "Script Analysis completed.")]

/-- The block behind the entries: two empty lines, and the rules with findings. -/
def loggedSummary (report : Report) : String :=
  "\n\n" ++ "---------------------------------------------\n" ++
    (if report.hasIssues then
      "Summary of issues observed:\n" ++ "  Check                           Count\n" ++
        String.join ((report.counts.filter (0 < ·.2)).map fun c =>
          "  " ++ String.ofList (c.1.name.toList.rightpad 32 ' ') ++ toString c.2 ++ "\n")
    else "No issues found after analyzing the script.\n") ++
    "---------------------------------------------\n"

end Report

/-! ### Entries -/

/-- The level and the message of an entry. -/
def LogEntry.shown (e : LogEntry) : String × String := (e.level.label, e.message)

theorem LogEntry.written_cons (clock : Clock) (entry : String × String)
    (rest : List (String × String)) :
    written clock (entry :: rest) =
      (clock 0).stamp ++ " - " ++ entry.1 ++ " - " ++ entry.2 ++ "\n" ++
        written (clock.later 1) rest := by
  rw [written, List.mapIdx_cons, String.join_cons, written]
  simp only [Clock.later, Nat.add_comm 1]

theorem Diagnostic.logged_fst_ne_info (f : Diagnostic) : f.logged.1 ≠ "INFO" := by
  change f.severity.logged ≠ "INFO"
  cases f.severity <;> decide

theorem RuleFailure.logged_fst_ne_info (f : RuleFailure) : f.logged.1 ≠ "INFO" := by
  change "ERROR" ≠ "INFO"
  decide

namespace Report

variable {report : Report}

/-- The entries that are written are those that are said. -/
theorem map_shown_logEntries (report : Report) :
    report.logEntries.map LogEntry.shown = report.logged := by
  have hfinding : LogEntry.shown ∘ LogEntry.ofDiagnostic = Diagnostic.logged := by
    funext ⟨line, severity, rule, message⟩
    cases severity <;> rfl
  have hfailure : LogEntry.shown ∘ LogEntry.ofFailure = RuleFailure.logged := rfl
  have hrule (c : RuleId × Nat) : (report.ruleEntries c).map LogEntry.shown =
      (report.diagnostics.filter (·.rule = c.1)).map Diagnostic.logged ++
        [("INFO", c.1.title ++ " completed - Count: " ++ toString c.2)] := by
    rw [ruleEntries, List.map_append, List.map_map, hfinding]
    rfl
  simp only [logEntries, logged, List.map_append, List.map_cons, List.map_flatMap, List.map_map,
    hrule, hfailure]
  rfl

theorem logSummary_eq (report : Report) : report.logSummary = report.loggedSummary := by
  have hpad (s : String) : padded 32 s = String.ofList (s.toList.rightpad 32 ' ') := by
    rw [padded, List.rightpad, String.ofList_append, String.ofList_toList, String.length_toList]
  have hhead : summaryRow "Check" "Count" = "  Check                           Count\n" := by
    decide +kernel
  have hrow (c : RuleId × Nat) : summaryRow c.1.name (toString c.2) =
      "  " ++ String.ofList (c.1.name.toList.rightpad 32 ' ') ++ toString c.2 ++ "\n" := by
    rw [summaryRow, hpad]
  simp only [logSummary, summary, loggedSummary, hhead, issueCounts, hrow, ruler,
    String.append_assoc]

/-! ### Completeness -/

/-- Each count that is written is the number of findings written just before it. -/
theorem Tallied.logged_eq (h : report.Tallied) :
    report.logged =
      ("INFO", "Starting Script Analysis.") ::
        (report.countedRules.flatMap fun r =>
          (report.diagnostics.filter (·.rule = r)).map Diagnostic.logged ++
            [("INFO", r.title ++ " completed - Count: " ++
              toString (report.diagnostics.filter (·.rule = r)).length)]) ++
        report.failures.map RuleFailure.logged ++ [("INFO", "Script Analysis completed.")] := by
  rw [logged, ← h.map_fst_counts, List.flatMap_map]
  have hrules : (report.counts.flatMap fun c =>
      (report.diagnostics.filter (·.rule = c.1)).map Diagnostic.logged ++
        [("INFO", c.1.title ++ " completed - Count: " ++ toString c.2)]) =
      report.counts.flatMap fun c =>
        (report.diagnostics.filter (·.rule = c.1)).map Diagnostic.logged ++
          [("INFO", c.1.title ++ " completed - Count: " ++
            toString (report.diagnostics.filter (·.rule = c.1)).length)] := by
    refine List.flatMap_congr fun c hc => ?_
    rw [h.count_eq_length hc]
    rfl
  rw [hrules]

/-- The entries that are no mere progress, in the order of the rules. -/
theorem filter_logged (report : Report) :
    report.logged.filter (·.1 ≠ "INFO") =
      ((report.counts.map Prod.fst).flatMap report.findingsOf).map Diagnostic.logged ++
        report.failures.map RuleFailure.logged := by
  have hfound (found : List Diagnostic) : (found.map Diagnostic.logged).filter (·.1 ≠ "INFO") =
      found.map Diagnostic.logged := by
    refine List.filter_eq_self.2 fun entry he => ?_
    obtain ⟨f, -, rfl⟩ := List.mem_map.1 he
    exact decide_eq_true f.logged_fst_ne_info
  have hfailed : (report.failures.map RuleFailure.logged).filter (·.1 ≠ "INFO") =
      report.failures.map RuleFailure.logged := by
    refine List.filter_eq_self.2 fun entry he => ?_
    obtain ⟨f, -, rfl⟩ := List.mem_map.1 he
    exact decide_eq_true f.logged_fst_ne_info
  have hinfo (message : String) : [("INFO", message)].filter (·.1 ≠ "INFO") = [] := rfl
  rw [logged, ← List.singleton_append, List.filter_append, List.filter_append, List.filter_append,
    List.filter_flatMap, hfailed, hinfo, hinfo, List.nil_append, List.append_nil,
    List.flatMap_map, List.map_flatMap]
  simp only [List.filter_append, hfound, hinfo, List.append_nil]
  rfl

/-- **Every finding is logged exactly once**, and so is every failure. -/
theorem Tallied.filter_logged_perm (h : report.Tallied) :
    (report.logged.filter (·.1 ≠ "INFO")).Perm
      (report.diagnostics.map Diagnostic.logged ++ report.failures.map RuleFailure.logged) := by
  have hall : report.diagnostics.filter (·.rule ∈ report.countedRules) = report.diagnostics := by
    refine List.filter_eq_self.2 fun f hf => ?_
    have hmem : f.rule ∈ report.countedRules :=
      List.mem_filter.2 ⟨RuleId.mem_all _, h.counted f hf⟩
    simpa using hmem
  have hnodup : report.countedRules.Nodup :=
    RuleId.InOrder.nodup (List.Pairwise.filter _ RuleId.all_inOrder)
  have hperm := report.flatMap_findingsOf_perm hnodup
  rw [hall] at hperm
  rw [filter_logged, h.map_fst_counts]
  exact (hperm.map _).append_right _

/-- Entries of a level other than progress are counted among the findings and failures. -/
theorem Tallied.countP_logged (h : report.Tallied) {level : String} (hl : level ≠ "INFO") :
    report.logged.countP (·.1 = level) =
      report.diagnostics.countP (·.logged.1 = level) +
        report.failures.countP (·.logged.1 = level) := by
  have hnotices : report.logged.countP (·.1 = level) =
      (report.logged.filter (·.1 ≠ "INFO")).countP (·.1 = level) := by
    rw [List.countP_filter]
    refine List.countP_congr fun entry _ => ?_
    by_cases he : entry.1 = level
    · simp [he, hl]
    · simp [he]
  rw [hnotices, h.filter_logged_perm.countP_eq, List.countP_append, List.countP_map,
    List.countP_map]
  rfl

theorem Tallied.countP_warning (h : report.Tallied) :
    report.logged.countP (·.1 = "WARNING") = report.countSeverity .warning := by
  rw [h.countP_logged (by decide), countSeverity, ← List.countP_eq_length_filter]
  have hnone : report.failures.countP (·.logged.1 = "WARNING") = 0 :=
    List.countP_eq_zero.2 fun _ _ => by simp [RuleFailure.logged]
  rw [hnone, Nat.add_zero]
  refine List.countP_congr fun f _ => ?_
  rw [decide_eq_true_eq, beq_iff_eq]
  exact Severity.logged_eq_warning_iff

theorem Tallied.countP_error (h : report.Tallied) :
    report.logged.countP (·.1 = "ERROR") =
      report.countSeverity .error + report.failures.length := by
  rw [h.countP_logged (by decide), countSeverity, ← List.countP_eq_length_filter]
  have hall : report.failures.countP (·.logged.1 = "ERROR") = report.failures.length :=
    List.countP_eq_length.2 fun _ _ => by simp [RuleFailure.logged]
  rw [hall]
  congr 1
  refine List.countP_congr fun f _ => ?_
  rw [decide_eq_true_eq, beq_iff_eq]
  exact Severity.logged_eq_error_iff

end Report

/-! ### Logs on a disk -/

namespace Disk

variable {d : Disk} {log : Log} {old : List UInt8}

/-- The bytes of a text on a disk. -/
def bytesOf (s : String) : List UInt8 := Utf8.encode s.toList

theorem bytesOf_append (s t : String) : bytesOf (s ++ t) = bytesOf s ++ bytesOf t := by
  rw [bytesOf, String.toList_append, Utf8.encode_append]
  rfl

/-- A text is written behind what the file holds. -/
theorem appendText_eq (h : d.root.get? log.location = some (.file old)) (s : String) :
    d.appendText log s = d.put log.location (.file (old ++ bytesOf s)) := by
  rw [appendText, append, h]
  rfl

theorem get?_put_file (h : d.root.get? log.location = some (.file old)) (bytes : List UInt8) :
    (d.put log.location (.file bytes)).root.get? log.location = some (.file bytes) :=
  Node.get?_set_of_get? h _

theorem put_put_file (h : d.root.get? log.location = some (.file old)) (first second : Node) :
    (d.put log.location first).put log.location second = d.put log.location second := by
  simp only [put, Node.set_set_of_get? h]

theorem put_self (h : d.root.get? log.location = some (.file old)) :
    d.put log.location (.file old) = d := by
  have hset : d.root.set log.location (.file old) = d.root :=
    (Node.set_rel (R := fun n n' => n' = n) ?_ h rfl)
  · rw [put, hset]
  · rintro n a c c' hc rfl
    exact Node.put_of_child? hc

/-- Entries are written one behind the other. -/
theorem appendEntries_eq (h : d.root.get? log.location = some (.file old)) (clock : Clock)
    (entries : List LogEntry) :
    d.appendEntries log clock entries =
      d.put log.location
        (.file (old ++ bytesOf (LogEntry.written clock (entries.map LogEntry.shown)))) := by
  induction entries generalizing d clock old with
  | nil =>
    have hnil : bytesOf (LogEntry.written clock ([].map LogEntry.shown)) = [] := rfl
    rw [appendEntries, hnil, List.append_nil, put_self h]
  | cons e rest ih =>
    rw [appendEntries, appendEntry, appendText_eq h, ih (get?_put_file h _), put_put_file h,
      List.map_cons, LogEntry.written_cons, bytesOf_append, List.append_assoc]
    rfl

theorem appendReport_eq (h : d.root.get? log.location = some (.file old)) (clock : Clock)
    (report : Report) :
    d.appendReport log clock report =
      d.put log.location (.file (old ++ bytesOf (LogEntry.written clock report.logged))) := by
  rw [appendReport, appendEntries_eq h, Report.map_shown_logEntries]

/-- The summary is written behind the entries. -/
theorem appendSummary_eq (h : d.root.get? log.location = some (.file old)) (clock : Clock)
    (report : Report) :
    (d.appendReport log clock report).appendSummary log report =
      d.put log.location
        (.file (old ++
          bytesOf (LogEntry.written clock report.logged ++ report.loggedSummary))) := by
  rw [appendReport_eq h, appendSummary, appendText_eq (get?_put_file h _), put_put_file h,
    List.append_assoc, ← bytesOf_append, Report.logSummary_eq]

end Disk

/-! ### Logs of reports -/

namespace Report

/-- **Logs are complete.**  Let a report be made by recording findings under their own rule and
failures, in any order.  Its log has an opening entry; then, for each rule with a count and in
catalog order, the findings of the rule in the order of the report and an entry with their number;
then an entry for each failure; and a closing entry.  So every finding and every failure is logged
exactly once, and the numbers of warnings and errors are those of the report, with one error for
each failure.  On a disk, the entries are appended to the log as they are read, one to a line with
its time, level and message, then two empty lines and the summary; nothing else changes. -/
theorem logEntries_complete {report : Report} (h : report.Reachable) :
    let rules := RuleId.all.filter fun r => (report.count? r).isSome
    let findings := fun r => report.diagnostics.filter (·.rule = r)
    report.counts.map Prod.fst = rules ∧
      report.logged =
        ("INFO", "Starting Script Analysis.") ::
          (rules.flatMap fun r => (findings r).map Diagnostic.logged ++
            [("INFO", r.title ++ " completed - Count: " ++ toString (findings r).length)]) ++
          report.failures.map RuleFailure.logged ++ [("INFO", "Script Analysis completed.")] ∧
      (report.logged.filter (·.1 ≠ "INFO")).Perm
        (report.diagnostics.map Diagnostic.logged ++ report.failures.map RuleFailure.logged) ∧
      report.logged.countP (·.1 = "WARNING") = report.countSeverity .warning ∧
      report.logged.countP (·.1 = "ERROR") =
        report.countSeverity .error + report.failures.length ∧
      ∀ (d : Disk) (log : Log) (clock : Clock) (old : List UInt8),
        d.root.get? log.location = some (.file old) →
        d.appendReport log clock report =
            d.put log.location (.file (old ++
              Utf8.encode (LogEntry.written clock report.logged).toList)) ∧
          (d.appendReport log clock report).appendSummary log report =
            d.put log.location (.file (old ++
              Utf8.encode (LogEntry.written clock report.logged ++
                report.loggedSummary).toList)) := by
  have ht := h.tallied
  exact ⟨ht.map_fst_counts, ht.logged_eq, ht.filter_logged_perm, ht.countP_warning,
    ht.countP_error, fun d log clock old hf =>
      ⟨Disk.appendReport_eq hf clock report, Disk.appendSummary_eq hf clock report⟩⟩

/-- A report in which a rule is recorded twice, around another one and a failure of its own. -/
def interleaved : Report :=
  (((start ⟨"a.c"⟩).record .encoding [.of .encoding 2 "x"]).record .totalLines
    [.of .totalLines 1 "y"]).recordFailure .encoding (.rule "z" "w") |>.record .encoding
    [.of .encoding 1 "x"]

/-- The log of that report, with a second between entries. -/
def interleavedLog : String :=
  "2024-03-04 09:05:07,000 - INFO - Starting Script Analysis.\n" ++
  "2024-03-04 09:05:08,000 - WARNING - line 1: [total_lines] y\n" ++
  "2024-03-04 09:05:09,000 - INFO - Line Count Verification completed - Count: 1\n" ++
  "2024-03-04 09:05:10,000 - ERROR - line 2: [file_encoding] x\n" ++
  "2024-03-04 09:05:11,000 - ERROR - line 1: [file_encoding] x\n" ++
  "2024-03-04 09:05:12,000 - INFO - File Format Consistency Verification completed - Count: 2\n" ++
  "2024-03-04 09:05:13,000 - ERROR - [file_encoding] Error during z check: w\n" ++
  "2024-03-04 09:05:14,000 - INFO - Script Analysis completed.\n" ++
  "\n\n---------------------------------------------\n" ++
  "Summary of issues observed:\n" ++
  "  Check                           Count\n" ++
  "  total_lines                     1\n" ++
  "  file_encoding                   2\n" ++
  "---------------------------------------------\n"

theorem logEntries_complete_interleaved :
    let d : Disk := ⟨.dir false [("l", .file [0x2D])], []⟩
    let log : Log := ⟨⟨"l"⟩, ["l"]⟩
    let clock : Clock := fun n => ⟨2024, 3, 4, 9, 5, 7 + n, 0⟩
    interleaved.Reachable ∧
      interleaved.logged.countP (·.1 = "ERROR") = 3 ∧
      ((d.appendReport log clock interleaved).appendSummary log interleaved).root.get? ["l"] =
        some (.file ([0x2D] ++ Utf8.encode interleavedLog.toList)) := by
  intro d log clock
  have h : interleaved.Reachable :=
    (((Reachable.start _).record (by decide)).record (by decide)).recordFailure _ _ |>.record
      (by decide)
  have hfile : d.root.get? log.location = some (.file [0x2D]) := rfl
  obtain ⟨-, -, -, -, herror, hdisk⟩ := logEntries_complete h
  refine ⟨h, ?_, ?_⟩
  · rw [herror]
    decide +kernel
  · have htext : LogEntry.written clock interleaved.logged ++ interleaved.loggedSummary =
        interleavedLog := by
      decide +kernel
    rw [(hdisk d log clock [0x2D] hfile).2, htext]
    exact Disk.get?_put_file hfile _

end Report

end StyleAudit
