import StyleAudit.Proofs.Battery.Complete
import StyleAudit.Proofs.Battery.FailingSource
import StyleAudit.Proofs.Battery.Order
import StyleAudit.Proofs.Settings.Accepted

/-!
# Reports under accepted thresholds

Thresholds that are accepted ask for blocks of at least one line, so that the rule on repetitions
does not fail; no other rule of the standard battery fails either if declarations are read off the
lines of the document.  So a report has no failures and a count for every rule that applies to the
language (`Battery.run_standard_accepted`).  Accepted bounds on the number of functions do not
cross: one finding says that the number is outside of them, and on which side.

There is a report unless the rule on indentation overflows, and accepted widths do not prevent that
(`Battery.run_standard_accepted_overflows`).
-/

namespace StyleAudit

/-- The rules that apply to sources in C and C++ and to headers. -/
def RuleId.forC : List RuleId :=
  [.includeDirective, .totalLines, .indentationTabs, .indentationSpacing, .includeForm,
    .functionCase, .variableCase, .pointerName, .moduleName, .typeCase, .repetition,
    .functionCount, .encoding, .indentationChar, .lineEndings, .closingBrace, .codeReuse,
    .excessWhitespace, .trailingWhitespace]

/-- The rules that apply to sources in Perl. -/
def RuleId.forPerl : List RuleId :=
  [.totalLines, .indentationTabs, .indentationSpacing, .repetition, .functionCount, .encoding,
    .indentationChar, .lineEndings, .excessWhitespace, .trailingWhitespace]

/-- The number of functions of a document: of lines that define a subroutine in Perl, and else of
lines that open a function body, as a fresh estimate of nesting sees them. -/
def Document.functions (d : Document) : Nat :=
  if d.language = .perl then d.lines.countP fun l => Rule.definesSubroutine l.text
  else ((Nesting.start d.language).observeAll (d.lines.map (·.text))).1.count .functionOpened

/-! ### The number of functions -/

namespace Rule

theorem length_openingLines {d : Document} {events : List LineEvent}
    (h : events.length = d.lines.length) :
    (openingLines d events).length = events.count .functionOpened := by
  have hcount : (d.lines.zip events).countP (fun p => p.2 == .functionOpened) =
      ((d.lines.zip events).map Prod.snd).countP (· == .functionOpened) := by
    rw [List.countP_map]
    rfl
  rw [openingLines, List.length_map, ← List.countP_eq_length_filter, hcount,
    List.map_snd_zip (Nat.le_of_eq h)]
  rfl

/-- The rule on the number of functions has one finding if it is outside the bounds, and else
none. -/
theorem length_functionCount (t : Thresholds) (openings : List Nat) :
    (functionCount t openings).length =
      if t.minFunctions ≤ openings.length ∧ openings.length ≤ t.maxFunctions then 0 else 1 := by
  rw [← List.length_map (f := (·.line)), functionCount_lines]
  by_cases hmin : openings.length < t.minFunctions
  · rw [if_pos hmin, if_neg (by omega)]
    rfl
  rw [if_neg hmin]
  by_cases hmax : t.maxFunctions < openings.length
  · rw [dif_pos hmax, if_neg (by omega)]
    rfl
  · rw [dif_neg hmax, if_pos (by omega)]
    rfl

/-- The number that the rule looks at is that of the functions of the document. -/
theorem evaluateFunctionCount_start {d : Document} (h : ¬ d.isEmpty = true) (t : Thresholds)
    (source : DeclarationSource) (disk : Disk) :
    ∃ openings, openings.length = d.functions ∧
      (evaluateFunctionCount d (.start d.language t source disk)).1 =
        .ok (functionCount t openings) := by
  unfold evaluateFunctionCount Document.functions
  rw [if_neg h]
  by_cases hl : d.language = .perl
  · refine ⟨subroutineLines d, ?_, ?_⟩
    · rw [if_pos hl, subroutineLines, List.length_map, List.countP_eq_length_filter]
    · rw [if_pos (by simpa [Session.start] using hl)]
      rfl
  · let events := ((Nesting.start d.language).observeAll (d.lines.map (·.text))).1
    have he : events.length = d.lines.length :=
      (Nesting.length_observeAll _ _).trans (List.length_map _)
    refine ⟨openingLines d events, ?_, ?_⟩
    · rw [if_neg hl, length_openingLines he]
    · rw [if_neg (by simpa [Session.start] using hl)]
      rfl

end Rule

namespace Battery

variable {d : Document} {s : Session} (probe : LeakProbe)

/-! ### Rules with a count -/

/-- A rule that applies has a count unless it fails, and counts are in the order of the catalog. -/
theorem map_fst_counts {rules : List RuleId} (hsteady : s.Steady probe d rules)
    (hs : s.known = none) (hr : RuleId.InOrder rules)
    (hok : ∀ r ∈ rules, ∃ found, (Rule.evaluate probe r d s).1 = .ok found) {report : Report}
    (h : (Battery.run (rules.map (Check.catalog probe)) d s).1 = some report) :
    report.counts.map Prod.fst = rules.filter (·.appliesTo d.language) := by
  have ho := (run_consistent (catalog_ownLabel probe rules d) h).ordered
  refine ho.inOrder.eq_of_mem_iff (List.Pairwise.filter _ hr) fun r => ?_
  rw [← Report.count?_isSome_iff, run_catalog_count?_isSome hsteady hs h]
  exact and_iff_left_of_imp fun hm => hok r (List.mem_filter.1 hm).1

theorem standard_inOrder : RuleId.InOrder RuleId.standard :=
  RuleId.all_inOrder.sublist List.filter_sublist

theorem filter_standard_eq (l : Language) :
    RuleId.standard.filter (·.appliesTo l) =
      if l.isCFamily then RuleId.forC else RuleId.forPerl := by
  cases l <;> rfl

/-- If declarations come from the lines of the document, the standard battery has no report iff the
rule on indentation overflows. -/
theorem run_standard_eq_none_iff_of_ofLines (hs : s.source = .ofLines) (hk : s.known = none) :
    ((standard probe).run d s).1 = none ↔
      Rule.Overflows s.thresholds.indentWidth d (s.observeAll d).1 := by
  rw [standard, run_catalog_eq_none_iff (Session.steady_ofLines hs not_mem_standard_memoryLeak) hk]
  constructor
  · rintro ⟨r, -, -, hr⟩
    by_cases hi : r = .indentationSpacing
    · subst hi
      exact Rule.evaluateIndentation_eq_overflow_iff.1 hr
    · exact absurd hr (Rule.evaluate_ne_overflow hs hi (.refl hk))
  · intro h
    refine ⟨.indentationSpacing, by decide, ?_, Rule.evaluateIndentation_eq_overflow_iff.2 h⟩
    cases d.language <;> rfl

/-- No rule of the standard battery fails if each of them finds something alone. -/
theorem run_standard_failures_eq_nil (hsteady : s.Steady probe d RuleId.standard)
    (hs : s.known = none)
    (hok : ∀ r ∈ RuleId.standard, ∃ found, (Rule.evaluate probe r d s).1 = .ok found)
    {report : Report} (h : ((standard probe).run d s).1 = some report) :
    report.failures = [] := by
  have hf := run_catalog_failures hsteady hs h
  have hnil : (RuleId.standard.filter (·.appliesTo d.language)).filter
      (fun r => (Rule.evaluate probe r d s).1.toOption.isNone) = [] := by
    refine List.filter_eq_nil_iff.2 fun r hr => ?_
    obtain ⟨found, hf⟩ := hok r (List.mem_filter.1 hr).1
    rw [hf]
    simp [Except.toOption]
  rw [hnil] at hf
  exact List.map_eq_nil_iff.1 hf

/-- The findings of the rule on the number of functions, in a report of the standard battery on a
document that is not empty. -/
theorem run_standard_functionCount (hd : d.Numbered) (he : ¬ d.isEmpty = true) (t : Thresholds)
    {source : DeclarationSource} {disk : Disk}
    (hsteady : (Session.start d.language t source disk).Steady probe d RuleId.standard)
    {report : Report}
    (h : ((standard probe).run d (.start d.language t source disk)).1 = some report) :
    (report.diagnostics.filter (·.rule = .functionCount)).length =
      if t.minFunctions ≤ d.functions ∧ d.functions ≤ t.maxFunctions then 0 else 1 := by
  obtain ⟨openings, hlength, hf⟩ :=
    Rule.evaluateFunctionCount_start he t source disk
  have hone : (RuleId.standard.filter (·.appliesTo d.language)).count .functionCount = 1 := by
    rw [filter_standard_eq]
    split_ifs <;> rfl
  have hanchors : ∀ found,
      (Rule.evaluate probe .functionCount d (.start d.language t source disk)).1 = .ok found →
        d.Anchors found :=
    fun _ => Rule.evaluateFunctionCount_anchors hd
  rw [run_catalog_ofRule hsteady rfl h, hone, recorded_eq_of_anchors hanchors]
  simp only [Rule.evaluate, hf, ← hlength, List.replicate_one, List.flatten_singleton]
  exact Rule.length_functionCount t openings

/-- **Accepted thresholds make no rule fail.**  Let a document be loaded from any bytes, with
declarations from its lines.  Under thresholds that are accepted, the standard battery has a report
unless the rule on indentation overflows.  The report has no failures, and a count for every rule
that applies to the language of the document and for no other: nineteen rules, or ten for a source
in Perl.  If the document is not empty, the rule on the number of functions has one finding if this
number is outside the bounds, and none otherwise.  Thresholds are accepted if they come from a
configuration file, or from none, with or without arguments of the command line that override
them. -/
theorem run_standard_accepted (path : Path) (bytes : List UInt8) {t : Thresholds}
    (ht : t.validate = .ok ()) (disk : Disk) :
    let d := Document.ofBytes path bytes
    let s := Session.start d.language t .ofLines disk
    let report? := ((standard probe).run d s).1
    (report? = none ↔ Rule.Overflows t.indentWidth d (s.observeAll d).1) ∧
      (∀ report, report? = some report →
        report.failures = [] ∧
          (d.language.isCFamily → report.counts.map Prod.fst = RuleId.forC) ∧
          (d.language = .perl → report.counts.map Prod.fst = RuleId.forPerl) ∧
          (d.isEmpty = false →
            (report.diagnostics.filter (·.rule = .functionCount)).length =
              if t.minFunctions ≤ d.functions ∧ d.functions ≤ t.maxFunctions then 0 else 1)) ∧
      ∀ (disk : Disk) (config : Option Path) (found : Option (Path × Settings)) (args : CheckArgs),
        disk.loadSettings config = .ok found →
        (args.override ((found.map (·.2)).getD {})).thresholds.validate = .ok () := by
  intro d s report?
  have hnone : report? = none ↔ Rule.Overflows t.indentWidth d (s.observeAll d).1 :=
    run_standard_eq_none_iff_of_ofLines probe rfl rfl
  have hsteady : s.Steady probe d RuleId.standard :=
    Session.steady_ofLines rfl not_mem_standard_memoryLeak
  -- all that the thresholds have to provide for: blocks have lines
  have hblocks : t.sequenceLength ≠ 0 :=
    Nat.ne_of_gt (Thresholds.validate_eq_ok_iff.1 ht).1
  refine ⟨hnone, fun report h => ?_, fun disk config found args h => ?_⟩
  · have hfits : ¬ Rule.Overflows t.indentWidth d (s.observeAll d).1 := fun ho => by
      rw [hnone.2 ho] at h
      cases h
    have hok : ∀ r ∈ RuleId.standard, ∃ found, (Rule.evaluate probe r d s).1 = .ok found :=
      fun r hr => Rule.exists_evaluate_eq_ok probe
        (ne_of_mem_of_not_mem hr not_mem_standard_memoryLeak) (fun _ => hfits) (fun _ => hblocks)
        rfl rfl
    have hcounts : report.counts.map Prod.fst =
        if d.language.isCFamily then RuleId.forC else RuleId.forPerl := by
      rw [map_fst_counts probe hsteady rfl standard_inOrder hok h, filter_standard_eq]
    refine ⟨run_standard_failures_eq_nil probe hsteady rfl hok h, fun hl => ?_, fun hl => ?_,
      fun he => ?_⟩
    · rw [hcounts, if_pos hl]
    · rw [hcounts, hl]
      rfl
    · exact run_standard_functionCount probe (Document.numbered_ofBytes path bytes)
        (Bool.eq_false_iff.1 he) t hsteady h
  · rw [CheckArgs.validate_override]
    cases found with
    | none => exact Thresholds.validate_default
    | some f => exact Disk.loadSettings_validate h

/-- Two subroutines in Perl. -/
def subroutines : List UInt8 := Utf8.encode "sub a \x7b\n\x7d\nsub b \x7b\n\x7d\n".toList

/-- A configuration file in the root directory, found from a directory below it. -/
def configured : Disk where
  root := .dir false [("ScriptLint.toml",
    .file (Utf8.encode "[thresholds]\nmin_functions = 7\n".toList)), ("src", .dir false [])]
  cwd := ["src"]

theorem run_standard_accepted_subroutines :
    let t : Thresholds := { maxFunctions := 1 }
    let d := Document.ofBytes ⟨"a.pl"⟩ subroutines
    t.validate = .ok () ∧ d.language = .perl ∧ d.isEmpty = false ∧ d.functions = 2 ∧
      (∃ report, ((standard fun _ _ disk => (.ok ⟨true, none⟩, disk)).run d
          (.start d.language t .ofLines .empty)).1 = some report ∧
        report.failures = [] ∧ report.counts.map Prod.fst = RuleId.forPerl ∧
        (report.diagnostics.filter (·.rule = .functionCount)).length = 1) ∧
      ∃ p s, configured.loadSettings none = .ok (some (p, s)) ∧ s.thresholds.minFunctions = 7 ∧
        (({ maxLines := some 9 } : CheckArgs).override s).thresholds.validate = .ok () := by
  have ht : ({ maxFunctions := 1 } : Thresholds).validate = .ok () :=
    Thresholds.validate_eq_ok_iff.2 (by decide)
  have hl : (Document.ofBytes ⟨"a.pl"⟩ subroutines).language = .perl := by decide +kernel
  have he : (Document.ofBytes ⟨"a.pl"⟩ subroutines).isEmpty = false := by decide +kernel
  have hn : (Document.ofBytes ⟨"a.pl"⟩ subroutines).functions = 2 := by decide +kernel
  obtain ⟨-, hreport, hload⟩ := run_standard_accepted
    (fun _ _ disk => (.ok ⟨true, none⟩, disk)) ⟨"a.pl"⟩ subroutines ht .empty
  refine ⟨ht, hl, he, hn, ?_, ?_⟩
  · obtain ⟨report, hrun⟩ : ∃ report, ((standard fun _ _ disk => (.ok ⟨true, none⟩, disk)).run
        (Document.ofBytes ⟨"a.pl"⟩ subroutines)
        (.start (Document.ofBytes ⟨"a.pl"⟩ subroutines).language { maxFunctions := 1 } .ofLines
          .empty)).1 = some report :=
      Option.isSome_iff_exists.1 (by decide +kernel)
    obtain ⟨hfail, -, hperl, hcount⟩ := hreport report hrun
    refine ⟨report, hrun, hfail, hperl hl, ?_⟩
    rw [hcount he, hn]
    rfl
  · have hmin : (configured.loadSettings none).toOption.map
        (·.map (·.2.thresholds.minFunctions)) = some (some 7) := by
      decide +kernel
    cases h : configured.loadSettings none with
    | error e => rw [h] at hmin; cases hmin
    | ok found =>
      cases found with
      | none => rw [h] at hmin; cases hmin
      | some f =>
        rw [h] at hmin
        exact ⟨f.1, f.2, rfl, Option.some.inj (Option.some.inj hmin),
          hload configured none (some f) { maxLines := some 9 } h⟩

/-- **Accepted thresholds do not give a report of every document.**  A width of `2 ^ 62` is
accepted, and a line at depth 4 makes the rule on indentation overflow. -/
theorem run_standard_accepted_overflows :
    let text := "int f() \x7b\nif (a) \x7b\nif (b) \x7b\nif (c) \x7b\nx;\n\x7d\n\x7d\n\x7d\n\x7d\n"
    let t : Thresholds := { indentWidth := 0x4000000000000000 }
    let d := Document.ofBytes ⟨"a.c"⟩ (Utf8.encode text.toList)
    t.validate = .ok () ∧
      ((standard fun _ _ disk => (.ok ⟨true, none⟩, disk)).run d
        (.start d.language t .ofLines .empty)).1 = none := by
  refine ⟨Thresholds.validate_eq_ok_iff.2 (by decide), ?_⟩
  decide +kernel

end Battery

end StyleAudit
