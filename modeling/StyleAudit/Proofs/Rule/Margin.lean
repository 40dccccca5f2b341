import StyleAudit.Proofs.Declaration.Name
import StyleAudit.Proofs.Rule.Anchor
import StyleAudit.Proofs.Rule.Indentation
import StyleAudit.Proofs.Text.Blank

/-!
# Rules that do not see the edges of lines

`Document.bare` takes from a document what twelve rules of the catalog do not look at: blanks at the
edges of lines, terminators, the encoding of lines and the path.  They find the same in a document
and in what is left of it (`Rule.evaluate_bare`).  Rules trim in different places.  Most do so
before they look at a line; the scan for declarations and the estimate of nesting trim for
themselves, and the search for functions in several places looks at whole lines, but for names,
which hold no blanks.

In Perl the number of functions is not among them: a line is taken for a subroutine only if a blank
follows `sub`, and that blank may be at the end of the line.
-/

namespace StyleAudit

/-- The number and the trimmed text of a line. -/
def Line.bare (l : Line) : Line := ⟨l.number, l.trimmed, .none, true⟩

@[simp] theorem Line.number_bare (l : Line) : l.bare.number = l.number := rfl

@[simp] theorem Line.trimmed_bare (l : Line) : l.bare.trimmed = l.trimmed := Text.trim_trim l.text

@[simp] theorem Line.isBlankOrComment_bare (l : Line) :
    l.bare.isBlankOrComment = l.isBlankOrComment := by
  rw [isBlankOrComment, trimmed_bare, isBlankOrComment]

/-- The numbers and the trimmed texts of lines. -/
def Document.bare (d : Document) : Document := ⟨⟨""⟩, d.lines.map Line.bare⟩

@[simp] theorem Document.isEmpty_bare (d : Document) : d.bare.isEmpty = d.isEmpty :=
  List.isEmpty_map

@[simp] theorem Document.size_bare (d : Document) : d.bare.size = d.size :=
  List.length_map _

/-- Lines are numbered as they come, so that trimmed texts alone determine what is left of a
document. -/
theorem Document.bare_ofBytes (path : Path) (bytes : List UInt8) :
    (ofBytes path bytes).bare =
      ⟨⟨""⟩, ((ofBytes path bytes).lines.map Line.trimmed).mapIdx fun i t =>
        ⟨i + 1, t, .none, true⟩⟩ := by
  refine congrArg (Document.mk ⟨""⟩) (List.ext_getElem? fun i => ?_)
  rw [List.getElem?_map, List.getElem?_mapIdx, List.getElem?_map, Option.map_map]
  cases hl : (ofBytes path bytes).lines[i]? with
  | none => rfl
  | some l =>
    have hn : l.number = i + 1 := (canonical_ofBytes path bytes).number i l hl
    simp [Line.bare, hn]

/-! ### What rules read -/

theorem Declaration.scanFrom_trim (depth : Nat) (ls : List (Nat × List Char)) :
    scanFrom depth (ls.map fun l => (l.1, Text.trim l.2)) = scanFrom depth ls := by
  induction ls generalizing depth with
  | nil => rfl
  | cons l ls ih => simp only [List.map_cons, scanFrom, Text.trim_trim, ih]

theorem Document.declarations_bare (d : Document) : d.bare.declarations = d.declarations := by
  have h := Declaration.scanFrom_trim 0 (d.lines.map fun l => (l.number, l.text))
  simp only [List.map_map] at h
  simp only [Document.declarations, Document.bare, List.map_map]
  exact h

theorem Nesting.observeAll_trim (n : Nesting) (ls : List (List Char)) :
    n.observeAll (ls.map Text.trim) = n.observeAll ls := by
  induction ls generalizing n with
  | nil => rfl
  | cons l ls ih => simp only [List.map_cons, observeAll, observe, Text.trim_trim, ih]

theorem Session.observeAll_bare (s : Session) (d : Document) :
    s.observeAll d.bare = s.observeAll d := by
  have h := s.nesting.reset.observeAll_trim (d.lines.map (·.text))
  simp only [List.map_map] at h
  simp only [Session.observeAll, Document.bare, List.map_map]
  exact congrArg (fun r => (r.1, { s with nesting := r.2 })) h

theorem Declaration.functionName?_trim (t : List Char) :
    functionName? (Text.trim t) = functionName? t := by
  rw [functionName?, Text.trim_trim, functionName?]

namespace Rule

variable (d : Document)

/-! ### Rules on lines -/

theorem includeDirective_bare : includeDirective d.bare = includeDirective d := by
  have hp : (fun l : Line => !l.isBlankOrComment) ∘ Line.bare = fun l => !l.isBlankOrComment := by
    funext l
    simp
  have hfind : d.bare.lines.find? (fun l => !l.isBlankOrComment) =
      (d.lines.find? fun l => !l.isBlankOrComment).map Line.bare := by
    rw [Document.bare, List.find?_map, hp]
  simp only [includeDirective, Document.isEmpty_bare, hfind]
  cases d.lines.find? fun l => !l.isBlankOrComment with
  | none => rfl
  | some l => simp only [Option.map_some, Line.trimmed_bare, Line.number_bare]

theorem includeForm_bare : includeForm d.bare = includeForm d := by
  simp [includeForm, Document.bare, List.filter_map, Function.comp_def]

theorem closingBrace_bare : closingBrace d.bare = closingBrace d := by
  simp only [closingBrace, Document.bare, List.getLast?_map]
  cases d.lines.getLast? with
  | none => rfl
  | some l => simp

theorem excessWhitespace_bare : excessWhitespace d.bare = excessWhitespace d := by
  simp [excessWhitespace, Document.bare, List.filter_map, Function.comp_def]

theorem indentationFits_bare (width : Nat) (events : List LineEvent) :
    indentationFits width d.bare events = indentationFits width d events := by
  have hmeasured (l : Line) (e : LineEvent) : measuredDepth? l.bare e = measuredDepth? l e := by
    cases e <;> simp only [measuredDepth?, Line.trimmed_bare]
  simp only [indentationFits, Document.bare, List.zip_map_left, List.all_map, Function.comp_def,
    Prod.map, hmeasured, id_eq]

/-! ### Rules on structure -/

theorem openingLines_bare (events : List LineEvent) :
    openingLines d.bare events = openingLines d events := by
  simp only [openingLines, Document.bare, List.zip_map_left, List.filter_map, List.map_map]
  rfl

theorem evaluateFunctionCount_bare {s : Session} (hl : s.language ≠ .perl) :
    evaluateFunctionCount d.bare s = evaluateFunctionCount d s := by
  have hl : (s.language == .perl) = false := by simpa using hl
  simp only [evaluateFunctionCount, Document.isEmpty_bare, hl, Bool.false_eq_true, if_false,
    Session.observeAll_bare, openingLines_bare]

theorem definitions_bare (seen : List (List Char)) (ls : List Line) :
    definitions seen (ls.map Line.bare) = definitions seen ls := by
  induction ls generalizing seen with
  | nil => rfl
  | cons l ls ih =>
    have hl : Declaration.functionName? l.bare.text = Declaration.functionName? l.text :=
      Declaration.functionName?_trim l.text
    simp only [List.map_cons, definitions, hl, ih, Line.number_bare]

theorem linesWith_bare {name : List Char} (hn : ∀ c ∈ name, Text.isBlank c = false) :
    linesWith name d.bare = linesWith name d := by
  have hp : (fun l : Line => Text.occursIn name l.text) ∘ Line.bare =
      fun l => Text.occursIn name l.text := by
    funext l
    exact Text.occursIn_trim hn l.text
  simp only [linesWith, Document.bare, List.filter_map, hp, List.map_map]
  rfl

theorem codeReuse_bare : codeReuse d.bare = codeReuse d := by
  have hlines : ∀ f ∈ definitions [] d.lines, linesWith f.1 d.bare = linesWith f.1 d := by
    intro f hf
    obtain ⟨l, -, hname, -⟩ := exists_of_mem_definitions hf
    exact linesWith_bare d (Declaration.not_isBlank_of_mem hname)
  have hd : definitions [] d.bare.lines = definitions [] d.lines := definitions_bare [] d.lines
  rw [codeReuse, codeReuse, hd, List.filter_congr fun f hf => by rw [hlines f hf]]
  refine List.map_congr_left fun f hf => ?_
  rw [hlines f (List.mem_filter.1 hf).1]

end Rule

/-! ### All twelve -/

/-- The rules that do not see the edges of lines. -/
def RuleId.structural : List RuleId :=
  [.includeDirective, .totalLines, .includeForm, .functionCase, .variableCase, .pointerName,
    .moduleName, .typeCase, .functionCount, .closingBrace, .codeReuse, .excessWhitespace]

theorem Session.source_bare {s : Session} (hs : s.source = .ofLines)
    (d : Document) : s.source d.bare = s.source d := by
  rw [hs]
  funext disk
  rw [DeclarationSource.ofLines, DeclarationSource.ofLines, d.declarations_bare]

theorem Session.declarations_bare {s : Session} {d : Document}
    (hs : s.source d.bare = s.source d) : s.declarations d.bare = s.declarations d := by
  unfold Session.declarations
  rw [hs]

namespace Rule

variable {d d' : Document} {s : Session} (probe : LeakProbe)

/-- **Twelve rules do not see the edges of lines**, if declarations do not depend on them either. -/
theorem evaluate_bare {r : RuleId} (hr : r ∈ RuleId.structural)
    (hl : r = .functionCount → s.language ≠ .perl) (hs : s.source d.bare = s.source d) :
    evaluate probe r d.bare s = evaluate probe r d s := by
  cases r with
  | includeDirective => simp only [evaluate, includeDirective_bare]
  | totalLines => simp only [evaluate, totalLines, Document.size_bare]
  | includeForm => simp only [evaluate, includeForm_bare]
  | functionCase | variableCase | pointerName | typeCase =>
    simp only [evaluate, onDeclarations, Session.declarations_bare hs]
  | moduleName => simp only [evaluate, evaluateModule, Session.declarations_bare hs]
  | functionCount => exact evaluateFunctionCount_bare d (hl rfl)
  | closingBrace => simp only [evaluate, closingBrace_bare]
  | codeReuse => simp only [evaluate, codeReuse_bare]
  | excessWhitespace => simp only [evaluate, excessWhitespace_bare]
  | _ => exact absurd hr (by decide)

/-- Documents with the same trimmed lines are the same to twelve rules. -/
theorem evaluate_eq_of_bare_eq (hb : d'.bare = d.bare) {r : RuleId} (hr : r ∈ RuleId.structural)
    (hl : r = .functionCount → s.language ≠ .perl) (hs : s.source = .ofLines) :
    evaluate probe r d' s = evaluate probe r d s := by
  rw [← evaluate_bare probe hr hl (Session.source_bare hs d'), hb,
    evaluate_bare probe hr hl (Session.source_bare hs d)]

/-- The rule on indentation overflows on both documents or on neither. -/
theorem evaluateIndentation_eq_overflow_of_bare_eq (hb : d'.bare = d.bare) :
    (evaluateIndentation d' s).1 = .error .overflow ↔
      (evaluateIndentation d s).1 = .error .overflow := by
  have hbare (d : Document) : (evaluateIndentation d s).1 = .error .overflow ↔
      ¬ indentationFits s.thresholds.indentWidth d.bare (s.observeAll d.bare).1 := by
    rw [evaluateIndentation_eq_overflow_iff, ← not_iff_not, not_not,
      ← indentationFits_iff_not_overflows, indentationFits_bare, Session.observeAll_bare]
  rw [hbare, hbare, hb]

end Rule

end StyleAudit
