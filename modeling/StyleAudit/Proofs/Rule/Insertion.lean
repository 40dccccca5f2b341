import StyleAudit.Proofs.Declaration.Depth
import StyleAudit.Proofs.Rule.Anchor
import StyleAudit.Proofs.Rule.Indentation

/-!
# Lines that are put in

A blank line or a comment that is put into a document moves the lines below it down and does nothing
else to eight rules, whatever the comment holds (`Rule.evaluate_inserted`).  Two things are shown
apart.  The rules and the scan for declarations do not look at the numbers of lines, but put them
into what they find, so that lines may be numbered anew (`Declaration.scanFrom_renumber`,
`Rule.measuredDepth?_congr`).  And where lines are gone through one after the other, a line that
carries no code leaves the state as it is (`Declaration.scanFrom_inserted`,
`Rule.exists_zip_inserted`).
-/

namespace StyleAudit

/-- The number of a line once another one was put in behind the first `k`. -/
def moved (k n : Nat) : Nat := if n ≤ k then n else n + 1

/-- A declaration on a line that has another number. -/
def Declaration.renumber (g : Nat → Nat) (x : Declaration) : Declaration :=
  { x with line := g x.line }

/-- A finding on a line that has another number. -/
def Diagnostic.renumber (g : Nat → Nat) (f : Diagnostic) : Diagnostic := { f with line := g f.line }

/-! ### Documents -/

namespace Document

/-- The numbers and the texts of lines. -/
def texts (d : Document) : List (Nat × List Char) := d.lines.map fun l => (l.number, l.text)

/-- The document `d'` has one line more, of the text `t`, and its other lines are those of `d`,
numbered anew. -/
def Inserts (g : Nat → Nat) (t : List Char) (d d' : Document) : Prop :=
  ∃ above below n, d.texts = above ++ below ∧
    d'.texts = above.map (Prod.map g id) ++ (n, t) :: below.map (Prod.map g id)

theorem texts_ofBytes (path : Path) (bytes : List UInt8) :
    (ofBytes path bytes).texts =
      ((ofBytes path bytes).lines.map (·.text)).mapIdx fun i t => (i + 1, t) := by
  refine List.ext_getElem? fun i => ?_
  rw [texts, List.getElem?_map, List.getElem?_mapIdx, List.getElem?_map, Option.map_map]
  cases hl : (ofBytes path bytes).lines[i]? with
  | none => rfl
  | some l =>
    have hn : l.number = i + 1 := (canonical_ofBytes path bytes).number i l hl
    simp [hn]

/-- A text among the texts of lines is a line that is put in. -/
theorem inserts_ofBytes {path path' : Path} {bytes bytes' : List UInt8} {k : Nat} {t : List Char}
    (hk : k ≤ (ofBytes path bytes).size)
    (h : (ofBytes path' bytes').lines.map (·.text) =
      ((ofBytes path bytes).lines.map (·.text)).insertIdx k t) :
    Inserts (moved k) t (ofBytes path bytes) (ofBytes path' bytes') := by
  rw [size, ← List.length_map (f := (·.text))] at hk
  rw [Inserts, texts_ofBytes, texts_ofBytes, h]
  generalize (ofBytes path bytes).lines.map (·.text) = texts at hk ⊢
  obtain ⟨above, below, rfl, rfl⟩ : ∃ above below, texts = above ++ below ∧ above.length = k :=
    ⟨texts.take k, texts.drop k, (List.take_append_drop k texts).symm, List.length_take_of_le hk⟩
  have hinsert : (above ++ below).insertIdx above.length t = above ++ t :: below :=
    List.modifyTailIdx_add (List.cons t) 0 above below
  refine ⟨above.mapIdx fun i t => (i + 1, t), below.mapIdx fun i t => (i + above.length + 1, t),
    0 + above.length + 1, List.mapIdx_append, ?_⟩
  rw [hinsert, List.mapIdx_append, List.mapIdx_cons]
  congr 2
  · refine List.ext_getElem (by simp) fun i hi _ => ?_
    have hi : i < above.length := by simpa using hi
    simp [moved, Nat.succ_le_of_lt hi]
  · refine List.ext_getElem (by simp) fun i _ _ => ?_
    have hi : ¬ i + above.length + 1 ≤ above.length := by omega
    simp only [List.getElem_mapIdx, List.getElem_map, Prod.map, id, moved, if_neg hi,
      Nat.add_right_comm]

end Document

/-! ### Declarations -/

namespace Declaration

variable {g : Nat → Nat}

/-- The scan puts the numbers of lines into declarations and does not look at them. -/
theorem scanFrom_renumber (depth : Nat) (ls : List (Nat × List Char)) :
    scanFrom depth (ls.map (Prod.map g id)) = (scanFrom depth ls).map (renumber g) := by
  induction ls generalizing depth with
  | nil => rfl
  | cons l ls ih =>
    simp only [List.map_cons, Prod.map, id, scanFrom, ih]
    split_ifs
    · cases classify (Text.trim l.2) <;> rfl
    · rfl

/-- A line that carries no code makes no difference to the scan. -/
theorem scanFrom_inserted {t : List Char} (ht : Text.isBlankOrComment (Text.trim t) = true)
    (depth n : Nat) (above below : List (Nat × List Char)) :
    scanFrom depth (above ++ (n, t) :: below) = scanFrom depth (above ++ below) := by
  have hcode : ¬ isCode (Text.trim t) = true := by simp [isCode, ht]
  have hline : codeLines ((n, t) :: below) = codeLines below := List.filter_cons_of_neg hcode
  have happend (ls : List (Nat × List Char)) :
      codeLines (above ++ ls) = codeLines above ++ codeLines ls := List.filter_append above ls
  rw [← scanFrom_codeLines, happend, hline, ← happend, scanFrom_codeLines]

end Declaration

/-- A document declares the same if a line that carries no code is put in. -/
theorem Document.declarations_inserted {g : Nat → Nat} {t : List Char} {d d' : Document}
    (h : Inserts g t d d') (ht : Text.isBlankOrComment (Text.trim t) = true) :
    d'.declarations = d.declarations.map (Declaration.renumber g) := by
  obtain ⟨above, below, n, hd, hd'⟩ := h
  change Declaration.scanFrom 0 d'.texts = (Declaration.scanFrom 0 d.texts).map _
  rw [hd, hd', Declaration.scanFrom_inserted ht, ← List.map_append, Declaration.scanFrom_renumber]

namespace Rule

variable {g : Nat → Nat} {t : List Char} {d d' : Document}

/-! ### Rules on lines -/

/-- Reports with the number of the line for lines whose text is selected. -/
def reports (r : RuleId) (selects : List Char → Bool) (message : List Char → String)
    (ls : List (Nat × List Char)) : List Diagnostic :=
  (ls.filter fun l => selects l.2).map fun l => .of r l.1 (message l.2)

theorem reports_texts (r : RuleId) (selects : List Char → Bool) (message : List Char → String)
    (d : Document) :
    reports r selects message d.texts =
      (d.lines.filter fun l => selects l.text).map fun l => .of r l.number (message l.text) := by
  simp only [reports, Document.texts, List.filter_map, List.map_map]
  rfl

theorem reports_renumber (r : RuleId) (selects : List Char → Bool) (message : List Char → String)
    (ls : List (Nat × List Char)) :
    reports r selects message (ls.map (Prod.map g id)) =
      (reports r selects message ls).map (Diagnostic.renumber g) := by
  simp only [reports, List.filter_map, List.map_map]
  rfl

theorem reports_append (r : RuleId) (selects : List Char → Bool) (message : List Char → String)
    (above below : List (Nat × List Char)) :
    reports r selects message (above ++ below) =
      reports r selects message above ++ reports r selects message below := by
  simp only [reports, List.filter_append, List.map_append]

/-- A line that is not selected only moves the reports below it. -/
theorem reports_inserted (h : d.Inserts g t d') (r : RuleId) {selects : List Char → Bool}
    (ht : selects t = false) (message : List Char → String) :
    reports r selects message d'.texts =
      (reports r selects message d.texts).map (Diagnostic.renumber g) := by
  obtain ⟨above, below, n, hd, hd'⟩ := h
  have hline (ls : List (Nat × List Char)) :
      reports r selects message ((n, t) :: ls) = reports r selects message ls := by
    simp only [reports, List.filter_cons, ht, Bool.false_eq_true, if_false]
  rw [hd, hd', reports_append, hline, ← reports_append, ← List.map_append, reports_renumber]

/-- A line that carries no code is no inclusion. -/
theorem not_isPrefixOf_include {t : List Char} (ht : Text.isBlankOrComment t = true) :
    "#include".toList.isPrefixOf t = false := by
  rw [Bool.eq_false_iff]
  intro h
  obtain ⟨rest, rfl⟩ := List.isPrefixOf_iff_prefix.1 h
  simp [Text.isBlankOrComment] at ht

theorem includeForm_inserted (h : d.Inserts g t d')
    (ht : Text.isBlankOrComment (Text.trim t) = true) :
    includeForm d' = (includeForm d).map (Diagnostic.renumber g) := by
  have hform (d : Document) : includeForm d =
      reports .includeForm
        (fun t => "#include".toList.isPrefixOf (Text.trim t) && !isInclusion (Text.trim t))
        (fun _ => "Incorrect syntax after #include.") d.texts := by
    rw [reports_texts]
    rfl
  rw [hform, hform, reports_inserted h]
  rw [not_isPrefixOf_include ht, Bool.false_and]

theorem excessWhitespace_inserted (h : d.Inserts g t d')
    (ht : Text.isBlankOrComment (Text.trim t) = true) :
    excessWhitespace d' = (excessWhitespace d).map (Diagnostic.renumber g) := by
  have hspaces (d : Document) : excessWhitespace d =
      reports .excessWhitespace
        (fun t => !Text.isBlankOrComment (Text.trim t) && Text.occursIn [' ', ' '] (Text.trim t))
        (fun t => "Excess whitespace detected: '" ++ String.ofList (Text.trim t) ++
          "' has more than one space between words.") d.texts := by
    rw [reports_texts]
    rfl
  rw [hspaces, hspaces, reports_inserted h]
  rw [ht, Bool.not_true, Bool.false_and]

/-! ### Indentation -/

/-- What is measured of a line depends on its text alone. -/
theorem measuredDepth?_congr {l l' : Line} (h : l.text = l'.text) (e : LineEvent) :
    measuredDepth? l e = measuredDepth? l' e := by
  obtain ⟨number, text, ending, isUtf8⟩ := l
  subst h
  cases e <;> rfl

/-- What is wrong with a line depends on its text alone. -/
theorem indentationProblem_congr (width : Nat) {l l' : Line} (h : l.text = l'.text)
    (e : LineEvent) : indentationProblem width l e = indentationProblem width l' e := by
  rw [indentationProblem, indentationProblem, measuredDepth?_congr h, h]

/-- A numbered text and its event, with the number changed. -/
def renumberEvent (g : Nat → Nat) : (Nat × List Char) × LineEvent → (Nat × List Char) × LineEvent :=
  Prod.map (Prod.map g id) id

/-- A line that carries no code is skipped, and the lines around it have the events they had. -/
theorem exists_zip_inserted (h : d.Inserts g t d')
    (ht : Text.isBlankOrComment (Text.trim t) = true) (s : Session) :
    ∃ front back n, d.texts.zip (s.observeAll d).1 = front ++ back ∧
      d'.texts.zip (s.observeAll d').1 =
        front.map (renumberEvent g) ++ ((n, t), .skipped) :: back.map (renumberEvent g) := by
  obtain ⟨above, below, n, hd, hd'⟩ := h
  have hevents (d : Document) :
      (s.observeAll d).1 = (s.nesting.reset.observeAll (d.texts.map Prod.snd)).1 := by
    rw [Document.texts, List.map_map]
    rfl
  have hsnd (ls : List (Nat × List Char)) :
      (ls.map (Prod.map g id)).map Prod.snd = ls.map Prod.snd := by
    rw [List.map_map]
    rfl
  -- the line is skipped, and the estimate goes on from where it was
  have hskip (n : Nesting) : n.observe t = (.skipped, n) := if_pos ht
  have hlength : above.length =
      (s.nesting.reset.observeAll (above.map Prod.snd)).1.length := by
    rw [Nesting.length_observeAll, List.length_map]
  have hzip (ls : List (Nat × List Char)) (events : List LineEvent) :
      (ls.map (Prod.map g id)).zip events = (ls.zip events).map (renumberEvent g) :=
    List.zip_map_left
  rw [hevents, hevents, hd, hd', List.map_append, List.map_append, List.map_cons, hsnd, hsnd,
    Nesting.observeAll_append, Nesting.observeAll_append, Nesting.observeAll, hskip,
    List.zip_append hlength, List.zip_append ((List.length_map _).trans hlength),
    List.zip_cons_cons, hzip, hzip]
  exact ⟨_, _, n, rfl, rfl⟩

/-- The line of a numbered text. -/
def lineOf (l : Nat × List Char) : Line := ⟨l.1, l.2, .none, true⟩

theorem indentationSpacing_texts (width : Nat) (d : Document) (events : List LineEvent) :
    indentationSpacing width d events = (d.texts.zip events).filterMap fun p =>
      (indentationProblem width (lineOf p.1) p.2).map (.of .indentationSpacing p.1.1 ·) := by
  rw [Document.texts, List.zip_map_left, List.filterMap_map]
  refine List.filterMap_congr fun ⟨l, e⟩ _ => ?_
  exact congrArg (Option.map _) (indentationProblem_congr width rfl e)

theorem indentationSpacing_inserted (h : d.Inserts g t d')
    (ht : Text.isBlankOrComment (Text.trim t) = true) (width : Nat) (s : Session) :
    indentationSpacing width d' (s.observeAll d').1 =
      (indentationSpacing width d (s.observeAll d).1).map (Diagnostic.renumber g) := by
  obtain ⟨front, back, n, hd, hd'⟩ := exists_zip_inserted h ht s
  have hmove (ls : List ((Nat × List Char) × LineEvent)) :
      (ls.map (renumberEvent g)).filterMap (fun p =>
        (indentationProblem width (lineOf p.1) p.2).map (.of .indentationSpacing p.1.1 ·)) =
      (ls.filterMap fun p =>
        (indentationProblem width (lineOf p.1) p.2).map (.of .indentationSpacing p.1.1 ·)).map
          (Diagnostic.renumber g) := by
    rw [List.filterMap_map, List.map_filterMap]
    refine List.filterMap_congr fun ⟨l, e⟩ _ => ?_
    rw [Option.map_map]
    exact congrArg (Option.map _) (indentationProblem_congr width rfl e)
  rw [indentationSpacing_texts, indentationSpacing_texts, hd, hd', List.filterMap_append,
    List.filterMap_cons_none rfl, hmove, hmove, List.filterMap_append, List.map_append]

theorem indentationFits_texts (width : Nat) (d : Document) (events : List LineEvent) :
    indentationFits width d events = (d.texts.zip events).all fun p =>
      (measuredDepth? (lineOf p.1) p.2).all (width * · < countBound) := by
  rw [Document.texts, List.zip_map_left, List.all_map]
  refine congrArg (d.lines.zip events).all (funext fun ⟨l, e⟩ => ?_)
  exact congrArg (Option.all _) (measuredDepth?_congr rfl e)

theorem indentationFits_inserted (h : d.Inserts g t d')
    (ht : Text.isBlankOrComment (Text.trim t) = true) (width : Nat) (s : Session) :
    indentationFits width d' (s.observeAll d').1 = indentationFits width d (s.observeAll d).1 := by
  obtain ⟨front, back, n, hd, hd'⟩ := exists_zip_inserted h ht s
  have hkeep (ls : List ((Nat × List Char) × LineEvent)) :
      (ls.map (renumberEvent g)).all (fun p =>
        (measuredDepth? (lineOf p.1) p.2).all (width * · < countBound)) =
      ls.all fun p => (measuredDepth? (lineOf p.1) p.2).all (width * · < countBound) := by
    rw [List.all_map]
    refine congrArg ls.all (funext fun ⟨l, e⟩ => ?_)
    exact congrArg (Option.all _) (measuredDepth?_congr rfl e)
  rw [indentationFits_texts, indentationFits_texts, hd, hd', List.all_append, List.all_cons, hkeep,
    hkeep, List.all_append]
  rfl

/-- Both the answer and its findings are those from before. -/
theorem evaluateIndentation_inserted (h : d.Inserts g t d')
    (ht : Text.isBlankOrComment (Text.trim t) = true) (s : Session) :
    (evaluateIndentation d' s).1 =
      (evaluateIndentation d s).1.map (List.map (Diagnostic.renumber g)) := by
  rw [fst_evaluateIndentation, fst_evaluateIndentation, indentationFits_inserted h ht,
    indentationSpacing_inserted h ht]
  split_ifs <;> rfl

/-! ### Rules on names -/

variable (g) (declared : List Declaration)

/-- Reports on declarations that a test selects are renumbered with them, if neither the test nor
the message looks at the line. -/
theorem declared_renumber (r : RuleId) {selects : Declaration → Bool}
    {message : Declaration → String}
    (hselects : ∀ x : Declaration, selects (x.renumber g) = selects x)
    (hmessage : ∀ x : Declaration, message (x.renumber g) = message x) :
    ((declared.map (Declaration.renumber g)).filter selects).map
        (fun x => Diagnostic.of r x.line (message x)) =
      ((declared.filter selects).map fun x => .of r x.line (message x)).map
        (Diagnostic.renumber g) := by
  have hcomp : selects ∘ Declaration.renumber g = selects := funext hselects
  rw [List.filter_map, hcomp, List.map_map, List.map_map]
  refine List.map_congr_left fun x _ => ?_
  exact congrArg (Diagnostic.of r (g x.line)) (hmessage x)

theorem functionCase_renumber :
    functionCase (declared.map (Declaration.renumber g)) =
      (functionCase declared).map (Diagnostic.renumber g) :=
  declared_renumber g declared .functionCase (fun _ => rfl) fun _ => rfl

theorem variableCase_renumber :
    variableCase (declared.map (Declaration.renumber g)) =
      (variableCase declared).map (Diagnostic.renumber g) := by
  simp only [variableCase, List.filter_map, List.filterMap_map, List.map_filterMap, Option.map_map]
  rfl

theorem pointerName_renumber :
    pointerName (declared.map (Declaration.renumber g)) =
      (pointerName declared).map (Diagnostic.renumber g) :=
  declared_renumber g declared .pointerName (fun _ => rfl) fun _ => rfl

theorem typeCase_renumber :
    typeCase (declared.map (Declaration.renumber g)) =
      (typeCase declared).map (Diagnostic.renumber g) :=
  declared_renumber g declared .typeCase (fun _ => rfl) fun _ => rfl

theorem fromModule_renumber :
    fromModule (declared.map (Declaration.renumber g)) =
      (fromModule declared).map (Declaration.renumber g) := by
  simp only [fromModule, List.filter_map, List.dropWhile_map]
  rfl

theorem moduleOf_renumber :
    moduleOf (declared.map (Declaration.renumber g)) = moduleOf declared := by
  rw [moduleOf, moduleOf, fromModule_renumber, List.head?_map, Option.map_map]
  rfl

theorem moduleName_renumber :
    moduleName (declared.map (Declaration.renumber g)) =
      (moduleName declared).map (Diagnostic.renumber g) := by
  rw [moduleName, moduleName, fromModule_renumber]
  cases fromModule declared with
  | nil => rfl
  | cons first rest => exact declared_renumber g rest .moduleName (fun _ => rfl) fun _ => rfl

end Rule

/-! ### All eight -/

/-- The rules that pass over lines that carry no code, wherever they stand. -/
def RuleId.transparent : List RuleId :=
  [.indentationSpacing, .includeForm, .functionCase, .variableCase, .pointerName, .moduleName,
    .typeCase, .excessWhitespace]

namespace Rule

variable {g : Nat → Nat} {t : List Char} {d d' : Document} {s : Session} (probe : LeakProbe)

/-- **Eight rules pass over a line that is put in**, if it carries no code: they find the same as
before, on lines that are numbered anew. -/
theorem evaluate_inserted (h : d.Inserts g t d')
    (ht : Text.isBlankOrComment (Text.trim t) = true) (hk : s.known = none)
    (hs : s.source = .ofLines) {r : RuleId} (hr : r ∈ RuleId.transparent) :
    (evaluate probe r d' s).1 =
      (evaluate probe r d s).1.map (List.map (Diagnostic.renumber g)) := by
  have hdeclared (d : Document) : s.declarations d =
      (.ok d.declarations, { s with known := some (.ok d.declarations) }) := by
    simp only [Session.declarations, hk, hs]
    rfl
  have hd : d'.declarations = d.declarations.map (Declaration.renumber g) :=
    Document.declarations_inserted h ht
  have hnames {f : List Declaration → List Diagnostic}
      (hf : ∀ declared : List Declaration, f (declared.map (Declaration.renumber g)) =
        (f declared).map (Diagnostic.renumber g)) :
      (onDeclarations f d' s).1 =
        (onDeclarations f d s).1.map (List.map (Diagnostic.renumber g)) := by
    simp only [onDeclarations, hdeclared, hd, Except.map, hf]
  cases r with
  | indentationSpacing => exact evaluateIndentation_inserted h ht s
  | includeForm => exact congrArg Except.ok (includeForm_inserted h ht)
  | excessWhitespace => exact congrArg Except.ok (excessWhitespace_inserted h ht)
  | functionCase => exact hnames (functionCase_renumber g)
  | variableCase => exact hnames (variableCase_renumber g)
  | pointerName => exact hnames (pointerName_renumber g)
  | typeCase => exact hnames (typeCase_renumber g)
  | moduleName =>
    simp only [evaluate, evaluateModule, hdeclared, hd, Except.map, moduleName_renumber]
  | _ => exact absurd hr (by decide)

end Rule

end StyleAudit
