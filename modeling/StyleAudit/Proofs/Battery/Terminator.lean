import StyleAudit.Proofs.Battery.Isolation
import StyleAudit.Proofs.Rule.Margin
import StyleAudit.Proofs.Source.Terminator

/-!
# Reports and terminators

How lines end is seen by one rule only, the one on line endings (`Rule.evaluate_unterminated`), and
it compares terminators with each other: where lines that are terminated end alike, it has nothing
to report (`Rule.lineEndings_eq_nil`).  So a report does not change when every line feed gets a
carriage return, or an unterminated last line a line feed (`Battery.run_standard_terminator`).
-/

namespace StyleAudit

theorem Document.bare_unterminated (d : Document) : d.unterminated.bare = d.bare := by
  simp only [Document.bare, Document.unterminated, List.map_map]
  rfl

theorem Session.observeAll_unterminated (s : Session) (d : Document) :
    s.observeAll d.unterminated = s.observeAll d := by
  rw [← s.observeAll_bare, d.bare_unterminated, s.observeAll_bare]

namespace Rule

variable (d : Document)

/-! ### Rules that look at whole lines -/

theorem indentationTabs_unterminated : indentationTabs d.unterminated = indentationTabs d := by
  simp only [indentationTabs, Document.unterminated, List.filter_map, List.map_map]
  rfl

theorem indentationSpacing_unterminated (width : Nat) (events : List LineEvent) :
    indentationSpacing width d.unterminated events = indentationSpacing width d events := by
  simp only [indentationSpacing, Document.unterminated, List.zip_map_left, List.filterMap_map]
  refine List.filterMap_congr fun p _ => ?_
  obtain ⟨l, e⟩ := p
  cases e <;> rfl

theorem evaluateIndentation_unterminated (s : Session) :
    evaluateIndentation d.unterminated s = evaluateIndentation d s := by
  have hfits (width : Nat) (events : List LineEvent) :
      indentationFits width d.unterminated events = indentationFits width d events := by
    rw [← indentationFits_bare, d.bare_unterminated, indentationFits_bare]
  simp only [evaluateIndentation, Session.observeAll_unterminated, hfits,
    indentationSpacing_unterminated]

theorem blocks_unterminated (length : Nat) (ls : List Line) :
    blocks length (ls.map Line.unterminated) = blocks length ls := by
  induction ls with
  | nil => rfl
  | cons l ls ih =>
    rw [List.map_cons, blocks, blocks, ih, ← List.map_cons, ← List.map_take, List.length_map,
      List.map_map]
    rfl

theorem repetition_unterminated (t : Thresholds) :
    repetition t d.unterminated = repetition t d := by
  simp only [repetition, substantialBlocks, Document.unterminated, blocks_unterminated]

theorem evaluateFunctionCount_unterminated (s : Session) :
    evaluateFunctionCount d.unterminated s = evaluateFunctionCount d s := by
  have hsub : subroutineLines d.unterminated = subroutineLines d := by
    simp only [subroutineLines, Document.unterminated, List.filter_map, List.map_map]
    rfl
  have hopen (events : List LineEvent) :
      openingLines d.unterminated events = openingLines d events := by
    rw [← openingLines_bare, d.bare_unterminated, openingLines_bare]
  simp only [evaluateFunctionCount, Document.isEmpty_unterminated, hsub,
    Session.observeAll_unterminated, hopen]

theorem encoding_unterminated : encoding d.unterminated = encoding d := by
  simp only [encoding, Document.unterminated, List.filter_map, List.map_map]
  rfl

theorem indentationChar_unterminated : indentationChar d.unterminated = indentationChar d := by
  have h : indentedLines d.unterminated = indentedLines d := by
    simp only [indentedLines, Document.unterminated, List.filterMap_map]
    rfl
  simp only [indentationChar, h]

theorem trailingWhitespace_unterminated :
    trailingWhitespace d.unterminated = trailingWhitespace d := by
  simp only [trailingWhitespace, Document.unterminated, List.filter_map, List.map_map]
  rfl

variable {d} {s : Session}

/-- **Only the rule on line endings sees terminators.** -/
theorem evaluate_unterminated (probe : LeakProbe) {r : RuleId} (hr : r ≠ .lineEndings)
    (hs : s.source = .ofLines) :
    evaluate probe r d.unterminated s = evaluate probe r d s := by
  -- what does not see the edges of lines does not see terminators; the number of functions is
  -- counted apart, since in Perl it depends on the edges
  by_cases hm : r ∈ RuleId.structural ∧ r ≠ .functionCount
  · exact evaluate_eq_of_bare_eq probe d.bare_unterminated hm.1 (fun h => absurd h hm.2) hs
  cases r with
  | indentationTabs => simp only [evaluate, indentationTabs_unterminated]
  | indentationSpacing => exact evaluateIndentation_unterminated d s
  | repetition => simp only [evaluate, evaluateRepetition, repetition_unterminated]
  | functionCount => exact evaluateFunctionCount_unterminated d s
  | encoding => simp only [evaluate, encoding_unterminated]
  | indentationChar => simp only [evaluate, indentationChar_unterminated]
  | lineEndings => exact absurd rfl hr
  | trailingWhitespace => simp only [evaluate, trailingWhitespace_unterminated]
  | memoryLeak =>
    simp only [evaluate, evaluateLeak, Document.isEmpty_unterminated, Document.path_unterminated]
  | _ => exact absurd (by decide) hm

/-- Lines that end alike are in order. -/
theorem lineEndings_eq_nil {ending : Ending} (h : d.EndsAlike ending) : lineEndings d = [] := by
  have heq : ∀ l ∈ d.lines.filter (fun l => l.ending != .none), l.ending = ending := by
    intro l hl
    obtain ⟨hl, hne⟩ := List.mem_filter.1 hl
    exact (h l hl).resolve_left (by simpa using hne)
  unfold lineEndings
  cases hf : d.lines.filter fun l => l.ending != .none with
  | nil => rfl
  | cons first rest =>
    rw [hf] at heq
    have hnone : rest.find? (fun l => l.ending != first.ending) = none := by
      refine List.find?_eq_none.2 fun l hl => ?_
      simp [heq l (List.mem_cons_of_mem _ hl), heq first List.mem_cons_self]
    simp only [hnone, Option.map_none, Option.toList_none]

end Rule

namespace Battery

open Session (Follows)

variable {d d' : Document} {s₀ : Session} (probe : LeakProbe)

theorem note_of_size (h : d'.size = d.size) : note d' = note d := by
  funext report a
  obtain ⟨r, (e | _) | found⟩ := a
  · rfl
  · rfl
  · simp only [note, recorded_of_size h]

/-- If rules answer alike on two documents wherever rules may have left the session, they do so in a
run. -/
theorem answers_catalog_congr (hl : d'.language = d.language) (h₀ : s₀.known = none)
    (h : ∀ r s, Follows probe d s₀ s → Rule.evaluate probe r d' s = Rule.evaluate probe r d s)
    (rules : List RuleId) :
    answers d' (rules.map (Check.catalog probe)) s₀ =
      answers d (rules.map (Check.catalog probe)) s₀ := by
  suffices hrun : ∀ s, Follows probe d s₀ s →
      answers d' (rules.map (Check.catalog probe)) s =
        answers d (rules.map (Check.catalog probe)) s from
    hrun s₀ (.refl h₀)
  induction rules with
  | nil => exact fun _ _ => rfl
  | cons r rules ih =>
    intro s hs
    rw [answers_catalog_cons, answers_catalog_cons, hl, h r s hs,
      ih _ (Rule.evaluate_follows r hs), ih s hs]

/-- If rules answer alike on documents of one path and size, the reports are equal. -/
theorem run_catalog_congr (hp : d'.path = d.path) (hn : d'.size = d.size) (h₀ : s₀.known = none)
    (h : ∀ r s, Follows probe d s₀ s → Rule.evaluate probe r d' s = Rule.evaluate probe r d s)
    (rules : List RuleId) :
    (Battery.run (rules.map (Check.catalog probe)) d' s₀).1 =
      (Battery.run (rules.map (Check.catalog probe)) d s₀).1 := by
  have hl : d'.language = d.language := by rw [Document.language, hp, Document.language]
  rw [run_eq_foldlM_note, run_eq_foldlM_note, answers_catalog_congr probe hl h₀ h,
    note_of_size hn, hp]

/-- Reports on documents that differ in terminators only are equal, if in each of them the lines
that are terminated end alike. -/
theorem run_catalog_of_unterminated_eq (hd : d'.unterminated = d.unterminated)
    {e e' : Ending} (he : d.EndsAlike e) (he' : d'.EndsAlike e') (h₀ : s₀.known = none)
    (hs : s₀.source = .ofLines) (rules : List RuleId) :
    (Battery.run (rules.map (Check.catalog probe)) d' s₀).1 =
      (Battery.run (rules.map (Check.catalog probe)) d s₀).1 := by
  have hp : d'.path = d.path := by rw [← d'.path_unterminated, hd, d.path_unterminated]
  have hn : d'.size = d.size := by rw [← d'.size_unterminated, hd, d.size_unterminated]
  refine run_catalog_congr probe hp hn h₀ (fun r s hf => ?_) rules
  by_cases hr : r = .lineEndings
  · subst hr
    simp only [Rule.evaluate, Rule.lineEndings_eq_nil he, Rule.lineEndings_eq_nil he']
  · have hsource := hf.source.trans hs
    rw [← Rule.evaluate_unterminated probe hr hsource, hd,
      Rule.evaluate_unterminated probe hr hsource]

/-- **Reports do not depend on terminators.**  In a source without carriage returns, a carriage
return before every line feed changes nothing in the report, and neither does a line feed behind an
unterminated last line; nor do they change whether there is a report.  The source need not be
UTF-8. -/
theorem run_standard_terminator (path : Path) (t : Thresholds) (disk : Disk) {bytes : List UInt8}
    (h : 0x0D ∉ bytes) :
    let b := standard probe
    let s := Session.start path.language t .ofLines disk
    (b.run (.ofBytes path (withReturns bytes)) s).1 = (b.run (.ofBytes path bytes) s).1 ∧
      (bytes ≠ [] → bytes.getLast? ≠ some 0x0A →
        (b.run (.ofBytes path (bytes ++ [0x0A])) s).1 = (b.run (.ofBytes path bytes) s).1) := by
  intro b s
  have hlf := Document.endsAlike_lf path h
  refine ⟨?_, fun hne hlast => ?_⟩
  · exact run_catalog_of_unterminated_eq probe (Document.unterminated_withReturns path h) hlf
      (Document.endsAlike_crlf path h) rfl rfl RuleId.standard
  · have hlf' : (Document.ofBytes path (bytes ++ [0x0A])).EndsAlike .lf :=
      Document.endsAlike_lf path (by simpa using h)
    exact run_catalog_of_unterminated_eq probe (Document.unterminated_concat_lf path h hne hlast)
      hlf hlf' rfl rfl RuleId.standard

/-- Lines with tabs, spaces at the end and a byte that is not UTF-8, the last one unterminated. -/
def unterminatedSource : List UInt8 :=
  Utf8.encode "int  f(int N) \x7b \n\treturn f(N);\n  \n\x7d ".toList ++ [0xFF]

theorem run_standard_terminator_unterminated :
    let path : Path := ⟨"a.c"⟩
    let b := standard fun _ _ disk => (.ok ⟨true, none⟩, disk)
    let s := Session.start path.language {} .ofLines .empty
    (0x0D ∉ unterminatedSource ∧ unterminatedSource ≠ [] ∧
        unterminatedSource.getLast? ≠ some 0x0A) ∧
      (b.run (.ofBytes path unterminatedSource) s).1.map (·.diagnostics.length) = some 9 ∧
      (b.run (.ofBytes path (withReturns unterminatedSource)) s).1 =
        (b.run (.ofBytes path unterminatedSource) s).1 ∧
      (b.run (.ofBytes path (unterminatedSource ++ [0x0A])) s).1 =
        (b.run (.ofBytes path unterminatedSource) s).1 := by
  intro path b s
  have h : 0x0D ∉ unterminatedSource ∧ unterminatedSource ≠ [] ∧
      unterminatedSource.getLast? ≠ some 0x0A := by
    decide +kernel
  have hreport :=
    run_standard_terminator (fun _ _ disk => (.ok ⟨true, none⟩, disk)) path {} .empty h.1
  exact ⟨h, by decide +kernel, hreport.1, hreport.2 h.2.1 h.2.2⟩

end Battery

end StyleAudit
