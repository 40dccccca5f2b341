import StyleAudit.Battery
import StyleAudit.Proofs.Report.Tally

/-!
# Accounts of runs

A run of a battery records one answer after the other in a report.  `Battery.answers` is the run
without the report: the checks that apply to the document, in order, each with what it returned.
There is a report unless one of the answers is an overflow (`Battery.run_eq_none_iff`), and this
file shows that the report accounts for the answers:

* `Report.Consistent` relates the fields of a report to each other, as `Report.Tallied` does, and
  its findings to the document.  Recording findings and recording a failure keep it
  (`Report.Consistent.record`, `Report.Consistent.recordFailure`), so every run ends in a
  consistent report (`Battery.run_consistent`);
* the findings, the rules with a count and the failures of the report can be read off the answers
  (`Battery.run_diagnostics`, `Battery.run_count?_isSome`, `Battery.run_failures`).

The only assumption is that a check reports under its own rule.  Rules may be repeated, checks may
fail, and findings may lie outside the document.
-/

namespace StyleAudit

namespace Report

/-! ### Consistency -/

/-- The fields of a report on `d` agree with each other. -/
structure Consistent (report : Report) (d : Document) : Prop where
  /-- Counts are in catalog order, one for each rule. -/
  ordered : Ordered report.counts
  /-- The count of a rule is the number of its findings. -/
  count_eq : ∀ r n, report.count? r = some n → n = report.diagnostics.countP (·.rule = r)
  /-- Every finding is of a rule with a count. -/
  counted : ∀ f ∈ report.diagnostics, (report.count? f.rule).isSome
  /-- The counts add up to the number of findings. -/
  sum_eq : (report.counts.map Prod.snd).sum = report.diagnostics.length
  /-- The flag tells whether there are findings. -/
  hasIssues_iff : report.hasIssues = true ↔ report.diagnostics ≠ []
  /-- Every finding is on a line of the document. -/
  inRange : ∀ f ∈ report.diagnostics, 1 ≤ f.line ∧ f.line ≤ d.size

variable {report : Report} {d : Document}

theorem Consistent.tallied (h : report.Consistent d) : report.Tallied :=
  ⟨h.ordered, h.count_eq, h.counted, h.sum_eq, h.hasIssues_iff⟩

theorem Tallied.consistent (h : report.Tallied)
    (hline : ∀ f ∈ report.diagnostics, 1 ≤ f.line ∧ f.line ≤ d.size) : report.Consistent d :=
  ⟨h.ordered, h.count_eq, h.counted, h.sum_eq, h.hasIssues_iff, hline⟩

theorem start_consistent (path : Path) (d : Document) : (start path).Consistent d :=
  (start_tallied path).consistent (by simp [start])

theorem Consistent.record (h : report.Consistent d) {r : RuleId} {found : List Diagnostic}
    (hrule : ∀ f ∈ found, f.rule = r) (hline : ∀ f ∈ found, 1 ≤ f.line ∧ f.line ≤ d.size) :
    (report.record r found).Consistent d := by
  refine (h.tallied.record hrule).consistent fun f hf => ?_
  rcases List.mem_append.1 hf with hf | hf
  · exact h.inRange f hf
  · exact hline f hf

theorem Consistent.recordFailure (h : report.Consistent d) (r : RuleId) (e : Failure) :
    (report.recordFailure r e).Consistent d :=
  (h.tallied.recordFailure r e).consistent h.inRange

end Report

/-! ### Answers -/

/-- The findings of a check on `d` are reported under its own rule. -/
def Check.OwnLabel (c : Check) (d : Document) : Prop :=
  ∀ s found, (c.evaluate d s).1 = .ok found → ∀ f ∈ found, f.rule = c.rule

namespace Battery

/-- What the checks that apply to a document return, in order, when each starts in the session
that the one before it left. -/
def answers (d : Document) : Battery → Session → List (RuleId × Findings)
  | [], _ => []
  | c :: b, s =>
    if c.applies d.language then
      (c.rule, (c.evaluate d s).1) :: answers d b (c.evaluate d s).2
    else answers d b s

/-- The findings of an answer that are recorded: those on a line of the document. -/
def recorded (d : Document) : Findings → List Diagnostic
  | .ok found => found.filter fun f => decide (1 ≤ f.line ∧ f.line ≤ d.size)
  | .error _ => []

/-- The failure that an answer is, if it is one. -/
def failure? : RuleId × Findings → Option RuleFailure
  | (r, .error (.failure e)) => some ⟨r, e.message⟩
  | _ => none

/-- Records an answer, unless it is an overflow. -/
def note (d : Document) (report : Report) : RuleId × Findings → Option Report
  | (r, .ok found) => some (report.record r (recorded d (.ok found)))
  | (r, .error (.failure e)) => some (report.recordFailure r e)
  | (_, .error .overflow) => none

variable (d : Document)

theorem map_fst_answers (b : Battery) (s : Session) :
    (answers d b s).map Prod.fst = (b.filter (·.applies d.language)).map (·.rule) := by
  induction b generalizing s with
  | nil => rfl
  | cons c b ih =>
    rw [answers, List.filter_cons]
    split_ifs
    · rw [List.map_cons, List.map_cons, ih]
    · exact ih s

theorem inRange_eq_recorded (found : List Diagnostic) :
    inRange d found = recorded d (.ok found) := by
  simp [inRange, recorded]

theorem runFrom_cons_of_not_applies {c : Check} (h : ¬ c.applies d.language) (report : Report)
    (s : Session) (b : Battery) : runFrom d report s (c :: b) = runFrom d report s b := by
  simp [runFrom, h]

theorem runFrom_cons_of_applies {c : Check} (h : c.applies d.language) (report : Report)
    (s : Session) (b : Battery) :
    runFrom d report s (c :: b) =
      match note d report (c.rule, (c.evaluate d s).1) with
      | some report => runFrom d report (c.evaluate d s).2 b
      | none => (none, (c.evaluate d s).2) := by
  simp only [runFrom, h, Bool.not_true, Bool.false_eq_true, if_false, inRange_eq_recorded]
  rcases c.evaluate d s with ⟨(_ | _) | _, _⟩ <;> rfl

theorem runFrom_eq_foldlM_note (b : Battery) (report : Report) (s : Session) :
    (runFrom d report s b).1 = (answers d b s).foldlM (note d) report := by
  induction b generalizing report s with
  | nil => rfl
  | cons c b ih =>
    rw [answers]
    split_ifs with h
    · rw [runFrom_cons_of_applies d h, List.foldlM_cons]
      cases note d report (c.rule, (c.evaluate d s).1) with
      | none => rfl
      | some report => exact ih report _
    · rw [runFrom_cons_of_not_applies d h, ih]

/-- A run records the answers one after the other. -/
theorem run_eq_foldlM_note (b : Battery) (s : Session) :
    (b.run d s).1 = (answers d b s).foldlM (note d) (.start d.path) :=
  runFrom_eq_foldlM_note d b _ s

variable {d}

theorem note_eq_none_iff {report : Report} {r : RuleId} {f : Findings} :
    note d report (r, f) = none ↔ f = .error .overflow := by
  rcases f with (_ | _) | _ <;> simp [note]

theorem diagnostics_of_note {report next : Report} {r : RuleId} {f : Findings}
    (h : note d report (r, f) = some next) :
    next.diagnostics = report.diagnostics ++ recorded d f := by
  rcases f with (e | _) | found <;> cases h
  · simp [Report.recordFailure, recorded]
  · simp [Report.record]

/-- Every answer of labelling checks carries findings of its own rule only. -/
theorem rule_eq_of_mem_answers {b : Battery} (hb : ∀ c ∈ b, c.OwnLabel d) {s : Session}
    {r : RuleId} {found : List Diagnostic} (h : (r, .ok found) ∈ answers d b s) :
    ∀ f ∈ found, f.rule = r := by
  induction b generalizing s with
  | nil => simp [answers] at h
  | cons c b ih =>
    have hb' : ∀ c ∈ b, c.OwnLabel d := fun c hc => hb c (List.mem_cons_of_mem _ hc)
    rw [answers] at h
    split_ifs at h
    · rcases List.mem_cons.1 h with he | h
      · obtain ⟨hr, hfound⟩ := Prod.mk.inj he
        rw [hr]
        exact hb c List.mem_cons_self s found hfound.symm
      · exact ih hb' h
    · exact ih hb' h

theorem mem_recorded {found : List Diagnostic} {f : Diagnostic} :
    f ∈ recorded d (.ok found) ↔ f ∈ found ∧ 1 ≤ f.line ∧ f.line ≤ d.size := by
  simp [recorded]

theorem recorded_of_size {d' : Document} (h : d'.size = d.size) (f : Findings) :
    recorded d' f = recorded d f := by
  cases f with
  | error e => rfl
  | ok found => simp only [recorded, h]

/-! ### Reports of runs -/

/-- Answers are recorded one after the other as long as none of them is an overflow. -/
theorem foldlM_note_eq_none_iff {answered : List (RuleId × Findings)} {report : Report} :
    answered.foldlM (note d) report = none ↔ ∃ r, (r, .error .overflow) ∈ answered := by
  induction answered generalizing report with
  | nil => simp
  | cons a rest ih =>
    rw [List.foldlM_cons]
    obtain ⟨r, (e | _) | found⟩ := a
    · simp [note, ih]
    · simp [note]
    · simp [note, ih]

/-- What recording one answer keeps, recording all of them keeps. -/
theorem foldlM_note_induction
    {motive : ∀ (answered : List (RuleId × Findings)) (report last : Report),
      answered.foldlM (note d) report = some last → Prop}
    (nil : ∀ report, motive [] report report rfl)
    (ok : ∀ r found rest report last
      (h : rest.foldlM (note d) (report.record r (recorded d (.ok found))) = some last),
      motive rest _ last h → motive ((r, .ok found) :: rest) report last h)
    (failure : ∀ r e rest report last
      (h : rest.foldlM (note d) (report.recordFailure r e) = some last),
      motive rest _ last h → motive ((r, .error (.failure e)) :: rest) report last h)
    {answered : List (RuleId × Findings)} {report last : Report}
    (h : answered.foldlM (note d) report = some last) : motive answered report last h := by
  induction answered generalizing report with
  | nil =>
    cases h
    exact nil _
  | cons a rest ih =>
    obtain ⟨r, (e | _) | found⟩ := a
    · exact failure r e rest report last h (ih h)
    · cases h
    · exact ok r found rest report last h (ih h)

theorem foldlM_note_consistent {answered : List (RuleId × Findings)} {report last : Report}
    (h : answered.foldlM (note d) report = some last)
    (hl : ∀ r found, (r, .ok found) ∈ answered → ∀ f ∈ found, f.rule = r) :
    report.Consistent d → last.Consistent d := by
  induction h using foldlM_note_induction with
  | nil report => exact id
  | ok r found rest report last h ih =>
    refine fun hc => ih (fun r found hm => hl r found (List.mem_cons_of_mem _ hm)) ?_
    refine hc.record (fun f hf => ?_) fun f hf => (mem_recorded.1 hf).2
    exact hl r found List.mem_cons_self f (mem_recorded.1 hf).1
  | failure r e rest report last h ih =>
    exact fun hc => ih (fun r found hm => hl r found (List.mem_cons_of_mem _ hm))
      (hc.recordFailure r e)

theorem foldlM_note_diagnostics {answered : List (RuleId × Findings)} {report last : Report}
    (h : answered.foldlM (note d) report = some last) :
    last.diagnostics = report.diagnostics ++ answered.flatMap fun a => recorded d a.2 := by
  induction h using foldlM_note_induction with
  | nil report => simp
  | ok r found rest report last h ih => simp [ih, Report.record]
  | failure r e rest report last h ih => simp [ih, recorded, Report.recordFailure]

theorem foldlM_note_failures {answered : List (RuleId × Findings)} {report last : Report}
    (h : answered.foldlM (note d) report = some last) :
    last.failures = report.failures ++ answered.filterMap failure? := by
  induction h using foldlM_note_induction with
  | nil report => simp
  | ok r found rest report last h ih =>
    simp [ih, failure?, Report.record, List.filterMap_cons]
  | failure r e rest report last h ih => simp [ih, failure?, Report.recordFailure]

theorem foldlM_note_mem_counts (r : RuleId) {answered : List (RuleId × Findings)}
    {report last : Report} (h : answered.foldlM (note d) report = some last) :
    r ∈ last.counts.map Prod.fst ↔
      r ∈ report.counts.map Prod.fst ∨ ∃ found, (r, .ok found) ∈ answered := by
  induction h using foldlM_note_induction with
  | nil report => simp
  | ok r' found rest report last h ih =>
    simp only [ih, Report.record, Report.mem_map_fst_addCount, List.mem_cons, Prod.mk.injEq,
      Except.ok.injEq, exists_or, exists_and_left]
    tauto
  | failure r' e rest report last h ih => simp [ih, Report.recordFailure]

/-- A run gives a report unless one of its checks overflows. -/
theorem run_eq_none_iff (b : Battery) (s : Session) :
    (b.run d s).1 = none ↔ ∃ r, (r, .error .overflow) ∈ answers d b s := by
  rw [run_eq_foldlM_note, foldlM_note_eq_none_iff]

section Run

variable {b : Battery} {s : Session} {report : Report}

theorem run_consistent (hb : ∀ c ∈ b, c.OwnLabel d) (h : (b.run d s).1 = some report) :
    report.Consistent d := by
  rw [run_eq_foldlM_note] at h
  exact foldlM_note_consistent h (fun _ _ => rule_eq_of_mem_answers hb)
    (Report.start_consistent d.path d)

/-- The findings of a run are those of its answers, in order and within the document. -/
theorem run_diagnostics (h : (b.run d s).1 = some report) :
    report.diagnostics = (answers d b s).flatMap fun a => recorded d a.2 := by
  rw [run_eq_foldlM_note] at h
  exact foldlM_note_diagnostics h

/-- The failures of a run are those of its answers, in order. -/
theorem run_failures (h : (b.run d s).1 = some report) :
    report.failures = (answers d b s).filterMap failure? := by
  rw [run_eq_foldlM_note] at h
  exact foldlM_note_failures h

/-- A rule has a count iff one of its checks succeeded. -/
theorem run_count?_isSome (h : (b.run d s).1 = some report) (r : RuleId) :
    (report.count? r).isSome ↔ ∃ found, (r, .ok found) ∈ answers d b s := by
  rw [run_eq_foldlM_note] at h
  rw [Report.count?_isSome_iff, foldlM_note_mem_counts r h]
  simp [Report.start]

end Run

/-- **A report accounts for its run.**  There is a report unless one of the answers is an overflow.
The fields of the report agree with each other; the rules with a count are those of which a check
succeeded, and the failures are the failed answers, in order.  Failed answers add no findings, and
so nothing to any count. -/
theorem run_accounts {b : Battery} (hb : ∀ c ∈ b, c.OwnLabel d) (s : Session) :
    ((b.run d s).1 = none ↔ ∃ r, (r, .error .overflow) ∈ answers d b s) ∧
      (answers d b s).map Prod.fst = (b.filter (·.applies d.language)).map (·.rule) ∧
      ∀ report, (b.run d s).1 = some report →
        report.Consistent d ∧
          (∀ r, (report.count? r).isSome ↔ ∃ found, (r, .ok found) ∈ answers d b s) ∧
          report.diagnostics = ((answers d b s).flatMap fun a => recorded d a.2) ∧
          report.failures = (answers d b s).filterMap failure? :=
  ⟨run_eq_none_iff b s, map_fst_answers d b s, fun _ h =>
    ⟨run_consistent hb h, run_count?_isSome h, run_diagnostics h, run_failures h⟩⟩

/-- One rule reports inside and outside of a document, fails, and reports again; another one does
not apply. -/
def mixed : Battery :=
  [⟨.encoding, fun _ => true, fun _ s =>
      (.ok [.of .encoding 0 "", .of .encoding 3 "", .of .encoding 4 ""], s)⟩,
    ⟨.encoding, fun _ => true, fun _ s => (.error (.failure (.rule "a" "b")), s)⟩,
    ⟨.codeReuse, fun l => l == .perl, fun _ s => (.ok [.of .codeReuse 1 ""], s)⟩,
    ⟨.encoding, fun _ => true, fun _ s => (.ok [.of .encoding 2 ""], s)⟩]

/-- A document of three lines. -/
def threeLines : Document := .ofBytes ⟨"a.c"⟩ [0x0A, 0x0A, 0x0A]

theorem run_accounts_mixed :
    (∀ c ∈ mixed, c.OwnLabel threeLines) ∧
      ∃ report : Report,
        (mixed.run threeLines (.start .c {} .ofLines .empty)).1 = some report ∧
          report.Consistent threeLines ∧
          report.counts = [(.encoding, 2)] ∧
          report.diagnostics = [.of .encoding 3 "", .of .encoding 2 ""] ∧
          report.failures = [⟨.encoding, "Error during a check: b"⟩] := by
  have h : ∀ c ∈ mixed, c.OwnLabel threeLines := by
    intro c hc s found hf f hm
    simp only [mixed, List.mem_cons, List.not_mem_nil, or_false] at hc
    rcases hc with rfl | rfl | rfl | rfl <;> cases hf
    · simp only [List.mem_cons, List.not_mem_nil, or_false] at hm
      rcases hm with rfl | rfl | rfl <;> rfl
    all_goals
      simp only [List.mem_cons, List.not_mem_nil, or_false] at hm
      rw [hm]
      rfl
  have hrun : (mixed.run threeLines (.start .c {} .ofLines .empty)).1 =
      some ⟨⟨"a.c"⟩, [(.encoding, 2)], [.of .encoding 3 "", .of .encoding 2 ""], true,
        [⟨.encoding, "Error during a check: b"⟩]⟩ := by decide +kernel
  exact ⟨h, _, hrun, ((run_accounts h _).2.2 _ hrun).1, rfl, rfl, rfl⟩

end Battery

end StyleAudit
