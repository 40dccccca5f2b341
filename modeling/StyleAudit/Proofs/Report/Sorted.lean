import StyleAudit.Proofs.Path.Order
import StyleAudit.Proofs.Report.Views
import StyleAudit.Proofs.Sorting

/-!
# The table of findings

The table of several reports lists all their findings, and `Report.Before` is the order of its rows:
errors before warnings, then by path, line and rule.  Findings on one level in all of this
(`Report.Tied`) keep the order of the reports.  Both are what the comparison of findings decides
(`Report.isLE_compareLocated_iff`), and together they determine the order (`Report.Arranged.eq`).
If no two reports are about one path, findings that tie are of one report, so that the order of the
reports makes no difference to the rows (`Report.filter_located_of_perm`).
`Report.findingsTable_arranged` puts this together with the rows of failures and the summary.
-/

namespace StyleAudit.Report

variable {a b : Located} {found found' sorted sorted' : List Located} {reports : List Report}

/-! ### The order of findings -/

/-- One finding stands before another one. -/
inductive Before : Located → Located → Prop
  /-- Errors stand before warnings. -/
  | severity {a b : Located} : a.2.severity = .error → b.2.severity = .warning → Before a b
  /-- Findings of one severity stand in the order of their paths. -/
  | path {a b : Located} : a.2.severity = b.2.severity → a.1.Precedes b.1 → Before a b
  /-- Findings for one path stand in the order of their lines. -/
  | line {a b : Located} : a.2.severity = b.2.severity → a.1.Same b.1 → a.2.line < b.2.line →
      Before a b
  /-- Findings on one line stand in catalog order. -/
  | rule {a b : Located} : a.2.severity = b.2.severity → a.1.Same b.1 → a.2.line = b.2.line →
      a.2.rule.rank < b.2.rule.rank → Before a b

/-- Neither finding stands before the other; their paths may be written differently. -/
structure Tied (a b : Located) : Prop where
  /-- They are of one severity. -/
  severity : a.2.severity = b.2.severity
  /-- They are about one path. -/
  path : a.1.Same b.1
  /-- They are about one line. -/
  line : a.2.line = b.2.line
  /-- They are of one rule. -/
  rule : a.2.rule = b.2.rule

theorem tied_iff : Tied a b ↔
    a.2.severity = b.2.severity ∧ a.1.Same b.1 ∧ a.2.line = b.2.line ∧ a.2.rule = b.2.rule :=
  ⟨fun h => ⟨h.severity, h.path, h.line, h.rule⟩, fun ⟨hs, hp, hl, hr⟩ => ⟨hs, hp, hl, hr⟩⟩

instance (a b : Located) : Decidable (Tied a b) := decidable_of_iff' _ tied_iff

/-- The comparison of severities is the other way round, so that errors come first. -/
theorem compare_rank_eq_lt_iff {s t : Severity} :
    compare t.rank s.rank = .lt ↔ s = .error ∧ t = .warning := by
  rw [Nat.compare_eq_lt]
  cases s <;> cases t <;> decide

theorem compare_rank_eq_eq_iff {s t : Severity} : compare t.rank s.rank = .eq ↔ s = t := by
  rw [Nat.compare_eq_eq]
  cases s <;> cases t <;> decide

theorem compareLocated_eq_lt_iff : compareLocated a b = .lt ↔ Before a b := by
  rw [compareLocated, Ordering.then_eq_lt, Ordering.then_eq_lt, Ordering.then_eq_lt,
    compare_rank_eq_lt_iff, compare_rank_eq_eq_iff, Path.compare_eq_lt_iff, Path.compare_eq_eq_iff,
    Nat.compare_eq_lt, Nat.compare_eq_eq, Nat.compare_eq_lt]
  constructor
  · rintro (⟨ha, hb⟩ | ⟨hs, hp | ⟨hp, hl | ⟨hl, hr⟩⟩⟩)
    · exact .severity ha hb
    · exact .path hs hp
    · exact .line hs hp hl
    · exact .rule hs hp hl hr
  · rintro (⟨ha, hb⟩ | ⟨hs, hp⟩ | ⟨hs, hp, hl⟩ | ⟨hs, hp, hl, hr⟩)
    · exact .inl ⟨ha, hb⟩
    · exact .inr ⟨hs, .inl hp⟩
    · exact .inr ⟨hs, .inr ⟨hp, .inl hl⟩⟩
    · exact .inr ⟨hs, .inr ⟨hp, .inr ⟨hl, hr⟩⟩⟩

theorem compareLocated_eq_eq_iff : compareLocated a b = .eq ↔ Tied a b := by
  rw [compareLocated, Ordering.then_eq_eq, Ordering.then_eq_eq, Ordering.then_eq_eq,
    compare_rank_eq_eq_iff, Path.compare_eq_eq_iff, Nat.compare_eq_eq, Nat.compare_eq_eq,
    RuleId.rank_injective.eq_iff, tied_iff]

/-- Each level compares keys, and so findings are in a total order. -/
instance : Std.TransCmp compareLocated := by
  have hseverity : Std.TransCmp fun a b : Located =>
      compareOn (fun f : Located => f.2.severity.rank) b a := Std.TransCmp.opposite
  have hpath := transCmp_comap Path.compare fun f : Located => f.1
  have hlevels := @Std.instTransCmpCompareLex _ _ _ hseverity
    (@Std.instTransCmpCompareLex _ _ (compareLex (compareOn fun f : Located => f.2.line)
      (compareOn fun f => f.2.rule.rank)) hpath _)
  exact hlevels

theorem isLE_compareLocated_iff : (compareLocated a b).isLE ↔ Before a b ∨ Tied a b := by
  rw [Ordering.isLE_iff_eq_lt_or_eq_eq, compareLocated_eq_lt_iff, compareLocated_eq_eq_iff]

theorem compareLocated_trans (a b c : Located) (hab : (compareLocated a b).isLE)
    (hbc : (compareLocated b c).isLE) : (compareLocated a c).isLE :=
  Std.TransCmp.isLE_trans hab hbc

theorem ties_compareLocated (a : Located) :
    ties (fun a b => (compareLocated a b).isLE) a = fun b => decide (Tied a b) := by
  funext b
  rw [Bool.eq_iff_iff, ties_isLE_iff, decide_eq_true_iff, compareLocated_eq_eq_iff]

/-! ### Findings in order -/

/-- The findings of a list, brought in order. -/
structure Arranged (found sorted : List Located) : Prop where
  /-- Nothing is lost or added. -/
  perm : sorted.Perm found
  /-- The findings are in order. -/
  ordered : sorted.Pairwise fun a b => Before a b ∨ Tied a b
  /-- Findings that tie stay in their order. -/
  stable : ∀ a, (sorted.filter fun b => Tied a b) = found.filter fun b => Tied a b

/-- What is brought in order is determined by the findings of each tie. -/
theorem Arranged.eq (h : Arranged found sorted) (h' : Arranged found' sorted')
    (htied : ∀ a, (found.filter fun b => Tied a b) = found'.filter fun b => Tied a b) :
    sorted = sorted' := by
  refine eq_of_filter_ties (isLE_total compareLocated) ?_ ?_ fun a => ?_
  · exact h.ordered.imp isLE_compareLocated_iff.2
  · exact h'.ordered.imp isLE_compareLocated_iff.2
  · rw [ties_compareLocated, h.stable, htied, h'.stable]

theorem sortedFindings_arranged (reports : List Report) :
    Arranged (located reports) (sortedFindings reports) where
  perm := List.mergeSort_perm _ _
  ordered := (List.pairwise_mergeSort compareLocated_trans (isLE_total compareLocated) _).imp
    isLE_compareLocated_iff.1
  stable a := by
    rw [← ties_compareLocated]
    exact filter_ties_mergeSort compareLocated_trans (isLE_total compareLocated) a _

/-! ### The order of the reports -/

/-- No two reports are about one path. -/
def DistinctPaths (reports : List Report) : Prop :=
  reports.Pairwise fun r r' => ¬r.path.Same r'.path

/-- The findings of a report that tie with a given one. -/
def tiedIn (a : Located) (r : Report) : List Located :=
  (r.diagnostics.map (r.path, ·)).filter fun b => Tied a b

theorem filter_located (a : Located) (reports : List Report) :
    ((located reports).filter fun b => Tied a b) = reports.flatMap (tiedIn a) :=
  List.filter_flatMap

theorem path_same_of_mem_tiedIn {r : Report} (h : b ∈ tiedIn a r) : a.1.Same r.path := by
  obtain ⟨hmem, htied⟩ := List.mem_filter.1 h
  obtain ⟨f, -, rfl⟩ := List.mem_map.1 hmem
  exact (of_decide_eq_true htied).path

/-- All findings that tie with a given one are of one report. -/
theorem tiedIn_eq_nil {r r' : Report} (h : ¬r.path.Same r'.path) (a : Located) :
    tiedIn a r = [] ∨ tiedIn a r' = [] := by
  by_contra! hne
  obtain ⟨b, hb⟩ := List.exists_mem_of_ne_nil _ hne.1
  obtain ⟨c, hc⟩ := List.exists_mem_of_ne_nil _ hne.2
  exact h ((path_same_of_mem_tiedIn hb).symm.trans (path_same_of_mem_tiedIn hc))

theorem DistinctPaths.of_perm {permuted : List Report} (h : reports.Perm permuted)
    (hpaths : DistinctPaths reports) : DistinctPaths permuted :=
  (h.pairwise_iff fun {_ _} hne hsame => hne hsame.symm).1 hpaths

/-- The order of the reports makes no difference to what ties. -/
theorem filter_located_of_perm {permuted : List Report} (h : reports.Perm permuted)
    (hpaths : DistinctPaths reports) (a : Located) :
    ((located reports).filter fun b => Tied a b) = (located permuted).filter fun b => Tied a b := by
  rw [filter_located, filter_located]
  induction h with
  | nil => rfl
  | cons r _ ih => rw [List.flatMap_cons, List.flatMap_cons, ih (List.pairwise_cons.1 hpaths).2]
  | swap r r' rest =>
    -- one of the two reports adds nothing
    have hne := (List.pairwise_cons.1 hpaths).1 r List.mem_cons_self
    rw [List.flatMap_cons, List.flatMap_cons, List.flatMap_cons, List.flatMap_cons]
    rcases tiedIn_eq_nil hne a with hnil | hnil <;> simp [hnil]
  | trans hfront _ ih ih' => rw [ih hpaths, ih' (hpaths.of_perm hfront)]

/-! ### Rows -/

/-- What the table shows of a message: all of it, or its first characters if it is long. -/
def issue (message : String) : String :=
  if message.length ≤ 60 then message else String.ofList (message.toList.take 57) ++ "..."

/-- What the table shows of a finding. -/
def shownFinding (f : Located) : List String :=
  [if f.2.severity = .error then "ERR" else "WARN", f.2.rule.name,
    f.1.text ++ ":" ++ toString f.2.line, issue f.2.message]

/-- What the table shows of the failures of a report. -/
def shownFailures (r : Report) : List (List String) :=
  r.failures.map fun f => ["FAIL", f.rule.name, r.path.text, issue f.message]

/-- The rows of a table: findings in a given order, the failures of all reports, and the summary if
there are findings. -/
def listing (reports : List Report) (sorted : List Located) : List (List String) :=
  sorted.map shownFinding ++ reports.flatMap shownFailures ++
    if sorted = [] then [] else [["Summary: " ++ summaryLine reports, "", "", ""]]

theorem shortened_eq (message : String) : shortened message = issue message := by
  rw [shortened, issue, maxMessage]
  by_cases h : message.length ≤ 60
  · rw [if_neg (Nat.not_lt.2 h), if_pos h]
  · rw [if_pos (Nat.lt_of_not_le h), if_neg h]

theorem findingRow_eq (f : Located) : findingRow f = shownFinding f := by
  rw [findingRow, shownFinding, shortened_eq]
  cases f.2.severity <;> rfl

theorem failureRows_eq (reports : List Report) :
    failureRows reports = reports.flatMap shownFailures := by
  refine List.flatMap_congr fun r _ => List.map_congr_left fun f _ => ?_
  rw [failureRow, shortened_eq]

theorem Arranged.rows_findingsTable (h : Arranged (located reports) sorted) :
    (findingsTable reports).rows = listing reports sorted := by
  have hsorted := h.eq (sortedFindings_arranged reports) fun _ => rfl
  have hempty : (located reports).isEmpty = true ↔ sorted = [] := by
    rw [List.isEmpty_iff]
    exact ⟨fun hnil => (hnil ▸ h.perm).eq_nil, fun hnil => (hnil ▸ h.perm.symm).eq_nil⟩
  have hfindings : sorted.map shownFinding = (sortedFindings reports).map findingRow := by
    rw [hsorted]
    exact List.map_congr_left fun f _ => (findingRow_eq f).symm
  rw [listing, hfindings, ← failureRows_eq, ← if_congr hempty rfl rfl]
  rfl

/-! ### Reading the table -/

/-- A report whose path and messages can be told from the boxes of a table. -/
structure PlainTexts (r : Report) : Prop where
  /-- The path. -/
  path : Table.PlainCell r.path.text
  /-- The messages of the findings. -/
  findings : ∀ f ∈ r.diagnostics, Table.PlainCell f.message
  /-- The messages of the failures. -/
  failures : ∀ f ∈ r.failures, Table.PlainCell f.message

theorem plainCell_issue {message : String} (h : Table.PlainCell message) :
    Table.PlainCell (issue message) := by
  unfold issue
  split
  · exact h
  · -- the cut may leave a blank at the end, but the dots stand behind it
    generalize hstart : message.toList.take 57 = start
    have hhead : start.head? = message.toList.head? := by
      rw [← hstart, List.head?_take, if_neg (by decide)]
    have hinline : Table.Inline (String.ofList start) := by
      rw [← hstart]
      exact .ofList ⟨fun hc => h.notMem_lf (List.mem_of_mem_take hc),
        fun hc => h.notMem_bar (List.mem_of_mem_take hc)⟩
    have hdots : Table.PlainCell "..." := .ofList (by decide)
    refine (hinline.append hdots.inline).plainCell ?head ?last
    case head =>
      intro c hc
      rw [String.toList_append, String.toList_ofList, List.head?_append, hhead, Option.mem_def,
        Option.or_eq_some_iff] at hc
      rcases hc with hc | ⟨-, hc⟩
      · exact (Text.trim_eq_iff.1 h.trim_eq).1 c hc
      · exact (Text.trim_eq_iff.1 hdots.trim_eq).1 c hc
    case last => simp [Text.isBlank]

theorem inline_counted (n : Nat) {noun : String} (h : Table.Inline noun) :
    Table.Inline (counted n noun) := by
  have hplural : Table.Inline (plural n) := by
    unfold plural
    split <;> exact .ofList (by decide)
  have hspace : Table.Inline " " := .ofList (by decide)
  exact (((plainCell_toString n).inline.append hspace).append h).append hplural

theorem inline_summaryLine (reports : List Report) : Table.Inline (summaryLine reports) := by
  have hopen : Table.Inline " (" := .ofList (by decide)
  have hcomma : Table.Inline ", " := .ofList (by decide)
  have hclose : Table.Inline ") in " := .ofList (by decide)
  have hsemicolon : Table.Inline "; " := .ofList (by decide)
  have hfailed : Table.Inline " could not run" := .ofList (by decide)
  have hend (n : Nat) : Table.Inline
      (if n == 0 then "" else "; " ++ counted n "check" ++ " could not run") := by
    split
    · exact .ofList (by decide)
    · exact (hsemicolon.append (inline_counted n (.ofList (by decide)))).append hfailed
  have hfront := (inline_counted (totalSeverity reports .error + totalSeverity reports .warning)
    (.ofList (by decide) : Table.Inline "issue")).append hopen
  have herrors := (hfront.append (inline_counted (totalSeverity reports .error)
    (.ofList (by decide) : Table.Inline "error"))).append hcomma
  have hwarnings := (herrors.append (inline_counted (totalSeverity reports .warning)
    (.ofList (by decide) : Table.Inline "warning"))).append hclose
  exact (hwarnings.append (inline_counted reports.length
    (.ofList (by decide) : Table.Inline "file"))).append (hend (totalFailures reports))

/-- The line ends in the noun of the files, or in what is said about failures. -/
theorem getLast?_summaryLine (reports : List Report) :
    ∃ c ∈ ['e', 's', 'n'], (summaryLine reports).toList.getLast? = some c := by
  simp only [summaryLine, String.toList_append, List.getLast?_append]
  split
  · have hfiles : ∃ c ∈ ['e', 's'], (counted reports.length "file").toList.getLast? = some c := by
      unfold counted plural
      split
      · exact ⟨'e', by simp, by simp⟩
      · exact ⟨'s', by simp, by simp⟩
    obtain ⟨c, hc, hlast⟩ := hfiles
    exact ⟨c, List.mem_append_left ['n'] hc, by simp [hlast]⟩
  · have hfailed : " could not run".toList.getLast? = some 'n' := by simp
    refine ⟨'n', by simp, ?_⟩
    simp only [String.toList_append, List.getLast?_append, hfailed, Option.some_or]

theorem plainCell_summary (reports : List Report) :
    Table.PlainCell ("Summary: " ++ summaryLine reports) := by
  have htitle : Table.Inline "Summary: " := .ofList (by decide)
  refine (htitle.append (inline_summaryLine reports)).plainCell ?head ?last
  case head => simp [Text.isBlank]
  case last =>
    obtain ⟨c, hc, hlast⟩ := getLast?_summaryLine reports
    have hends : Text.OneWord ['e', 's', 'n'] := by decide
    rw [String.toList_append, List.getLast?_append, hlast, Option.some_or]
    intro d hd
    obtain rfl := Option.some.inj hd
    exact hends.not_blank c hc

/-- A row of the table whose cells are plain. -/
def PlainRow (row : List String) : Prop := row.length = 4 ∧ ∀ cell ∈ row, Table.PlainCell cell

theorem plainRow_shownFinding {r : Report} (h : PlainTexts r) {f : Diagnostic}
    (hf : f ∈ r.diagnostics) : PlainRow (shownFinding (r.path, f)) := by
  have hlabel : Table.PlainCell (if f.severity = .error then "ERR" else "WARN") := by
    split <;> exact .ofList (by decide)
  have hcolon : Table.PlainCell ":" := .ofList (by decide)
  have hlocation := (h.path.append hcolon).append (plainCell_toString f.line)
  refine ⟨rfl, ?_⟩
  simpa [shownFinding] using ⟨hlabel, plainCell_name f.rule, hlocation,
    plainCell_issue (h.findings f hf)⟩

theorem plainRow_of_mem_shownFailures {r : Report} (h : PlainTexts r) {row : List String}
    (hrow : row ∈ shownFailures r) : PlainRow row := by
  have hlabel : Table.PlainCell "FAIL" := .ofList (by decide)
  obtain ⟨f, hf, rfl⟩ := List.mem_map.1 hrow
  exact ⟨rfl, by simpa using ⟨hlabel, plainCell_name f.rule, h.path,
    plainCell_issue (h.failures f hf)⟩⟩

theorem plainRow_of_mem (h : ∀ r ∈ reports, PlainTexts r) {row : List String}
    (hrow : row ∈ (findingsTable reports).rows) : PlainRow row := by
  rw [(sortedFindings_arranged reports).rows_findingsTable, listing] at hrow
  rcases List.mem_append.1 hrow with hrow | hrow
  · rcases List.mem_append.1 hrow with hrow | hrow
    · obtain ⟨f, hsorted, rfl⟩ := List.mem_map.1 hrow
      have hlocated := (sortedFindings_arranged reports).perm.mem_iff.1 hsorted
      obtain ⟨r, hr, hfound⟩ := List.mem_flatMap.1 hlocated
      obtain ⟨g, hg, rfl⟩ := List.mem_map.1 hfound
      exact plainRow_shownFinding (h r hr) hg
    · obtain ⟨r, hr, hrow⟩ := List.mem_flatMap.1 hrow
      exact plainRow_of_mem_shownFailures (h r hr) hrow
  · split at hrow
    · exact absurd hrow List.not_mem_nil
    · have hempty : Table.PlainCell "" := .ofList (by decide)
      obtain rfl := List.mem_singleton.1 hrow
      exact ⟨rfl, by simpa using ⟨plainCell_summary reports, hempty⟩⟩

theorem plain_findingsTable (h : ∀ r ∈ reports, PlainTexts r) : (findingsTable reports).Plain where
  titles_ne_nil := List.cons_ne_nil _ _
  titles := by
    have hseverity : Table.PlainCell "Severity" := .ofList (by decide)
    have hrule : Table.PlainCell "Rule" := .ofList (by decide)
    have hlocation : Table.PlainCell "Location" := .ofList (by decide)
    have hissue : Table.PlainCell "Issue" := .ofList (by decide)
    simpa [findingsTable] using ⟨hseverity, hrule, hlocation, hissue⟩
  rows row hrow := (plainRow_of_mem h hrow).2
  length_eq row hrow := (plainRow_of_mem h hrow).1

/-! ### The table -/

/-- **The table lists all findings in order**: errors first, then by path, line and rule, and those
that tie as in the reports.  The failures follow in the order of the reports, and the summary if
there are findings.  If no two reports are about one path, their order makes no difference to the
rows of findings.  Unless a text can be taken for the boxes around it, the rows are read back from
the drawing. -/
theorem findingsTable_arranged (reports : List Report) :
    (∃ sorted, Arranged (reports.flatMap fun r => r.diagnostics.map fun f => (r.path, f)) sorted ∧
      (findingsTable reports).rows = listing reports sorted ∧
      (DistinctPaths reports → ∀ permuted, reports.Perm permuted →
        (findingsTable permuted).rows = listing permuted sorted)) ∧
    ((∀ r ∈ reports, PlainTexts r) → Table.read (findingsTable reports).draw =
      ["Severity", "Rule", "Location", "Issue"] :: (findingsTable reports).rows) := by
  have harranged := sortedFindings_arranged reports
  refine ⟨⟨sortedFindings reports, harranged, harranged.rows_findingsTable, ?_⟩,
    fun h => Table.read_draw (plain_findingsTable h)⟩
  intro hpaths permuted hperm
  have hpermuted := sortedFindings_arranged permuted
  rw [harranged.eq hpermuted (filter_located_of_perm hperm hpaths)]
  exact hpermuted.rows_findingsTable

/-- Two reports, with findings of both severities, a long message and a failure. -/
def scattered : List Report :=
  [{ path := ⟨"lib//pool.c"⟩
     diagnostics := [.of .trailingWhitespace 7 "Line ends in blanks", .of .encoding 1 "Not UTF-8"]
     failures := [⟨.memoryLeak, "The compiler is missing"⟩] },
   { path := ⟨"lib/arena.c"⟩
     diagnostics := [.of .trailingWhitespace 7
       "This line ends in several blanks and tabs that nobody can see on a screen"] }]

/-- The findings of these reports in order. -/
theorem sortedFindings_scattered : sortedFindings scattered =
    [(⟨"lib//pool.c"⟩, .of .encoding 1 "Not UTF-8"),
      (⟨"lib/arena.c"⟩, .of .trailingWhitespace 7
        "This line ends in several blanks and tabs that nobody can see on a screen"),
      (⟨"lib//pool.c"⟩, .of .trailingWhitespace 7 "Line ends in blanks")] := by
  have hsecond : (compareLocated (⟨"lib//pool.c"⟩, .of .trailingWhitespace 7 "Line ends in blanks")
      (⟨"lib//pool.c"⟩, .of .encoding 1 "Not UTF-8")).isLE = false := by decide
  simp [sortedFindings, located, scattered, List.mergeSort, List.MergeSort.Internal.splitInTwo,
    List.merge, hsecond]
  decide

/-- The table of these reports, and that of the same reports the other way round. -/
theorem findingsTable_arranged_scattered :
    let rows := [["ERR", "file_encoding", "lib//pool.c:1", "Not UTF-8"],
      ["WARN", "trailing_whitespace", "lib/arena.c:7",
        "This line ends in several blanks and tabs that nobody can..."],
      ["WARN", "trailing_whitespace", "lib//pool.c:7", "Line ends in blanks"],
      ["FAIL", "memory_leak", "lib//pool.c", "The compiler is missing"],
      ["Summary: 3 issues (1 error, 2 warnings) in 2 files; 1 check could not run", "", "", ""]]
    (DistinctPaths scattered ∧ ∀ r ∈ scattered, PlainTexts r) ∧
    (findingsTable scattered).rows = rows ∧ (findingsTable scattered.reverse).rows = rows ∧
    Table.read (findingsTable scattered).draw =
      ["Severity", "Rule", "Location", "Issue"] :: rows := by
  intro rows
  have hpaths : DistinctPaths scattered := by
    unfold DistinctPaths
    decide
  have hplain : ∀ r ∈ scattered, PlainTexts r := by
    refine List.forall_mem_cons.2 ⟨⟨.ofList (by decide), ?_, ?_⟩,
      List.forall_mem_singleton.2 ⟨.ofList (by decide), ?_, ?_⟩⟩
    · exact List.forall_mem_cons.2
        ⟨.ofList (by decide), List.forall_mem_singleton.2 (.ofList (by decide))⟩
    · exact List.forall_mem_singleton.2 (.ofList (by decide))
    · exact List.forall_mem_singleton.2 (.ofList (by decide))
    · exact fun _ h => absurd h List.not_mem_nil
  obtain ⟨⟨sorted, harranged, hrows, hpermuted⟩, hread⟩ := findingsTable_arranged scattered
  have hsorted := harranged.eq (sortedFindings_arranged scattered) fun _ => rfl
  rw [sortedFindings_scattered] at hsorted
  subst hsorted
  have hthese : (findingsTable scattered).rows = rows := hrows.trans (by decide +kernel)
  refine ⟨⟨hpaths, hplain⟩, hthese, ?_, ?_⟩
  · exact (hpermuted hpaths _ scattered.reverse_perm.symm).trans (by decide +kernel)
  · rw [hread hplain, hthese]

end StyleAudit.Report
