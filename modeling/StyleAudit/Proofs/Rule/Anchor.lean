import Mathlib.Data.List.Basic
import StyleAudit.Proofs.Source.Render
import StyleAudit.Rule.Check
import StyleAudit.Tool.Preprocessor

/-!
# Anchors of findings

Rules anchor their findings in different ways: on a line that they read, on the line behind a
threshold, on the line that an index selects, on the first line, or on the line of a declaration,
which may come from a marker in the output of a preprocessor.  All of them are lines of the document
(`Rule.evaluate_anchors`), whatever the thresholds are.

It is enough that lines are numbered within the document, as those of a loaded one are
(`Document.numbered_ofBytes`), and that declarations are on lines of the document, as those of both
front ends are (`Naming.source_anchors`).  Lists that are read by position are long enough
(`Rule.functionCount_lines`, `Rule.of_mem_occurrences`, `Rule.fromModule_eq`).
-/

namespace StyleAudit

/-! ### Lines of a document -/

/-- The document has a line of this number. -/
def Document.HasLine (d : Document) (n : Nat) : Prop := 1 ≤ n ∧ n ≤ d.size

/-- Every line carries a number within the document. -/
def Document.Numbered (d : Document) : Prop := ∀ l ∈ d.lines, d.HasLine l.number

/-- Every finding is on a line of the document. -/
def Document.Anchors (d : Document) (found : List Diagnostic) : Prop :=
  ∀ f ∈ found, d.HasLine f.line

namespace Document

theorem numbered_ofBytes (path : Path) (bytes : List UInt8) : (ofBytes path bytes).Numbered := by
  intro l hl
  obtain ⟨i, hi⟩ := List.mem_iff_getElem?.1 hl
  have hn := (canonical_ofBytes path bytes).number i l hi
  obtain ⟨hlt, -⟩ := List.getElem?_eq_some_iff.1 hi
  exact ⟨by omega, by rw [hn]; exact hlt⟩

theorem hasLine_one {d : Document} (h : ¬ d.isEmpty = true) : d.HasLine 1 := by
  refine ⟨Nat.le_refl 1, List.length_pos_iff.2 fun hn => h ?_⟩
  rw [isEmpty, hn]
  rfl

namespace Anchors

variable {d : Document} {r : RuleId}

theorem nil : d.Anchors [] := by
  simp [Anchors]

theorem single {line : Nat} (h : d.HasLine line) (message : String) :
    d.Anchors [.of r line message] := by
  intro f hf
  obtain rfl := List.mem_singleton.1 hf
  exact h

theorem map {α : Type} {items : List α} {line : α → Nat} (h : ∀ a ∈ items, d.HasLine (line a))
    (message : α → String) : d.Anchors (items.map fun a => .of r (line a) (message a)) := by
  intro f hf
  obtain ⟨a, ha, rfl⟩ := List.mem_map.1 hf
  exact h a ha

theorem filterMap {α : Type} {items : List α} {line : α → Nat}
    (h : ∀ a ∈ items, d.HasLine (line a)) (problem : α → Option String) :
    d.Anchors (items.filterMap fun a => (problem a).map (.of r (line a) ·)) := by
  intro f hf
  obtain ⟨a, ha, hp⟩ := List.mem_filterMap.1 hf
  obtain ⟨message, -, rfl⟩ := Option.map_eq_some_iff.1 hp
  exact h a ha

/-- Findings on lines of the document that a test selects. -/
theorem lines (hd : d.Numbered) (selects : Line → Bool) (message : Line → String) :
    d.Anchors ((d.lines.filter selects).map fun l => .of r l.number (message l)) :=
  map (fun l hl => hd l (List.mem_filter.1 hl).1) message

end Anchors

end Document

/-! ### Declarations -/

namespace Declaration

/-- A declaration is what one of the lines declares, with the number of that line. -/
theorem exists_of_mem_scanFrom {depth : Nat} {ls : List (Nat × List Char)} {x : Declaration}
    (h : x ∈ scanFrom depth ls) :
    ∃ l ∈ ls, x.line = l.1 ∧ classify (Text.trim l.2) = some (x.kind, x.name) := by
  induction ls generalizing depth with
  | nil => simp [scanFrom] at h
  | cons l ls ih =>
    obtain ⟨number, text⟩ := l
    have later {depth : Nat} (h : x ∈ scanFrom depth ls) :
        ∃ l ∈ (number, text) :: ls,
          x.line = l.1 ∧ classify (Text.trim l.2) = some (x.kind, x.name) := by
      obtain ⟨l, hl, hx⟩ := ih h
      exact ⟨l, List.mem_cons_of_mem _ hl, hx⟩
    rw [scanFrom] at h
    split_ifs at h
    · rcases List.mem_append.1 h with h | h
      · obtain ⟨declared, hc, rfl⟩ := Option.map_eq_some_iff.1 (Option.mem_toList.1 h)
        exact ⟨(number, text), List.mem_cons_self, rfl, hc⟩
      · exact later h
    · exact later h

end Declaration

/-- Declarations of the document are on lines that it has, whatever is on the disk. -/
def DeclarationSource.Anchors (source : DeclarationSource) (d : Document) : Prop :=
  ∀ disk declared, (source d disk).1 = .ok declared → ∀ x ∈ declared, d.HasLine x.line

theorem Document.declarations_anchors {d : Document} (hd : d.Numbered) :
    ∀ x ∈ d.declarations, d.HasLine x.line := by
  intro x hx
  obtain ⟨l, hl, he, -⟩ := Declaration.exists_of_mem_scanFrom hx
  obtain ⟨line, hline, rfl⟩ := List.mem_map.1 hl
  rw [he]
  exact hd line hline

theorem DeclarationSource.ofLines_anchors {d : Document} (hd : d.Numbered) :
    DeclarationSource.ofLines.Anchors d := by
  intro disk declared h
  cases h
  exact Document.declarations_anchors hd

/-- Whatever a preprocessor prints, lines outside the document declare nothing. -/
theorem Preprocessor.declarations_anchors (p : Preprocessor) (tools : Tools) (d : Document) :
    (p.declarations tools).Anchors d := by
  intro disk declared h x hx
  simp only [declarations] at h
  cases hr : (p.run tools disk d.path).1 with
  | error e => rw [hr] at h; cases h
  | ok located =>
    rw [hr] at h
    cases h
    obtain ⟨l, hl, he, -⟩ := Declaration.exists_of_mem_scanFrom hx
    have hrange := (List.mem_filter.1 hl).2
    rw [Bool.and_eq_true, decide_eq_true_eq, decide_eq_true_eq] at hrange
    rw [he]
    exact hrange

theorem Naming.source_anchors (n : Naming) (tools : Tools) {d : Document} (hd : d.Numbered) :
    (n.source tools).Anchors d := by
  unfold Naming.source
  split_ifs
  · exact Preprocessor.declarations_anchors _ tools d
  · exact DeclarationSource.ofLines_anchors hd

/-- The declarations that a session gives are on lines of the document. -/
structure Session.Anchored (s : Session) (d : Document) : Prop where
  /-- Those that its source gives are. -/
  source : s.source.Anchors d
  /-- Those that are known are. -/
  known : ∀ declared, s.known = some (.ok declared) → ∀ x ∈ declared, d.HasLine x.line

/-- A session in which no rule has asked yet gives the declarations of its source. -/
theorem Session.Anchored.of_source {d : Document} {s : Session} (hk : s.known = none)
    (hs : s.source.Anchors d) : s.Anchored d :=
  ⟨hs, fun declared h => by rw [hk] at h; cases h⟩

/-- Asking for declarations gives declarations on lines of the document, now and later. -/
theorem Session.Anchored.declarations {d : Document} {s : Session} (h : s.Anchored d) :
    (∀ declared, (s.declarations d).1 = .ok declared → ∀ x ∈ declared, d.HasLine x.line) ∧
      (s.declarations d).2.Anchored d := by
  unfold Session.declarations
  split
  · rename_i found hk
    refine ⟨fun declared hd => h.known declared ?_, h⟩
    cases hd
    exact hk
  · refine ⟨fun declared hd => ?_, h⟩
    cases hd
  · refine ⟨h.source s.disk, h.source, fun declared hd => h.source s.disk declared ?_⟩
    -- what is kept of an answer are its declarations
    simp only at hd
    rcases hr : (s.source d s.disk).1 with (e | _) | found
    · rw [hr] at hd
      cases hd
    · rw [hr] at hd
      cases hd
    · rw [hr] at hd
      cases hd
      rfl

namespace Rule

variable {d : Document} {s : Session} {found : List Diagnostic}

/-! ### Positions in lists -/

/-- The finding on too many functions is on the line that opens the first one too many. -/
theorem functionCount_lines (t : Thresholds) (openings : List Nat) :
    (functionCount t openings).map (·.line) =
      if openings.length < t.minFunctions then [1]
      else if h : t.maxFunctions < openings.length then [openings.get ⟨t.maxFunctions, h⟩]
      else [] := by
  unfold functionCount
  by_cases hmin : openings.length < t.minFunctions
  · rw [if_pos hmin, if_pos hmin]
    rfl
  rw [if_neg hmin, if_neg hmin]
  by_cases hmax : t.maxFunctions < openings.length
  · rw [dif_pos hmax, List.drop_eq_getElem_cons hmax]
    rfl
  · rw [dif_neg hmax, List.drop_eq_nil_iff.2 (Nat.le_of_not_lt hmax)]
    rfl

/-- Texts of blocks are listed with the line of at least one block, and with such lines only. -/
theorem of_mem_occurrences {bs : List Block} {o : List (List Char) × List Nat}
    (h : o ∈ occurrences bs) : 0 < o.2.length ∧ ∀ n ∈ o.2, ∃ b ∈ bs, n = b.start := by
  induction bs generalizing o with
  | nil => simp [occurrences] at h
  | cons b bs ih =>
    have later {o : List (List Char) × List Nat} (h : o ∈ occurrences bs) :
        ∀ n ∈ o.2, ∃ b' ∈ b :: bs, n = b'.start := fun n hn => by
      obtain ⟨b', hb', he⟩ := (ih h).2 n hn
      exact ⟨b', List.mem_cons_of_mem b hb', he⟩
    rw [occurrences] at h
    rcases List.mem_cons.1 h with rfl | h
    · refine ⟨Nat.succ_pos _, fun n hn => ?_⟩
      rcases List.mem_cons.1 hn with rfl | hn
      · exact ⟨b, List.mem_cons_self, rfl⟩
      · cases hl : (occurrences bs).lookup b.texts with
        | none => simp [hl] at hn
        | some starts =>
          rw [hl, Option.getD_some] at hn
          obtain ⟨front, back, he, -⟩ := List.lookup_eq_some_iff.1 hl
          have hmem : (b.texts, starts) ∈ occurrences bs := by
            rw [he]
            exact List.mem_append_right _ List.mem_cons_self
          exact later hmem n hn
    · have h := (List.mem_filter.1 h).1
      exact ⟨(ih h).1, later h⟩

/-- The symbols behind the one that establishes a module are those behind its position. -/
theorem fromModule_eq {declared : List Declaration} {marker : Nat}
    (h : (declared.filter (·.topLevel)).findIdx? establishesModule = some marker) :
    ∃ _ : marker + 1 ≤ (declared.filter (·.topLevel)).length,
      fromModule declared =
        (declared.filter (·.topLevel))[marker] ::
          (declared.filter (·.topLevel)).drop (marker + 1) := by
  obtain ⟨hm, hidx⟩ := List.findIdx?_eq_some_iff_findIdx_eq.1 h
  refine ⟨hm, ?_⟩
  rw [fromModule, List.dropWhile_eq_drop_findIdx_not]
  simp only [Bool.not_not]
  rw [hidx, List.drop_eq_getElem_cons hm]

/-! ### Rules on lines -/

theorem includeDirective_anchors (hd : d.Numbered) : d.Anchors (includeDirective d) := by
  unfold includeDirective
  split_ifs with he
  · exact .nil
  · split
    · rename_i l hl
      split_ifs
      · exact .nil
      · exact .single (hd l (List.mem_of_find?_eq_some hl)) _
    · exact .single (Document.hasLine_one he) _

theorem totalLines_anchors (t : Thresholds) (d : Document) : d.Anchors (totalLines t d) := by
  unfold totalLines
  split_ifs with h
  · exact .nil
  · exact .single ⟨Nat.succ_le_succ (Nat.zero_le _), Nat.lt_of_not_le h⟩ _

theorem indentationSpacing_anchors (hd : d.Numbered) (width : Nat) (events : List LineEvent) :
    d.Anchors (indentationSpacing width d events) :=
  .filterMap (fun p hp => hd p.1 (List.of_mem_zip hp).1) _

theorem indentationChar_anchors (hd : d.Numbered) : d.Anchors (indentationChar d) := by
  unfold indentationChar
  split
  · exact .nil
  · rename_i number tab rest hl
    refine .map (fun p hp => ?_) _
    have hp : p ∈ indentedLines d := by
      rw [hl]
      exact List.mem_cons_of_mem _ (List.mem_filter.1 hp).1
    obtain ⟨l, hl, he⟩ := List.mem_filterMap.1 hp
    obtain ⟨_, -, rfl⟩ := Option.map_eq_some_iff.1 he
    exact hd l hl

theorem lineEndings_anchors (hd : d.Numbered) : d.Anchors (lineEndings d) := by
  unfold lineEndings
  split
  · exact .nil
  · rename_i first rest hl
    cases hf : rest.find? fun l => l.ending != first.ending with
    | none => exact .nil
    | some l =>
      have hm : l ∈ d.lines.filter fun l => l.ending != .none := by
        rw [hl]
        exact List.mem_cons_of_mem _ (List.mem_of_find?_eq_some hf)
      exact .single (hd l (List.mem_filter.1 hm).1) _

theorem closingBrace_anchors (hd : d.Numbered) : d.Anchors (closingBrace d) := by
  unfold closingBrace
  split
  · exact .nil
  · rename_i l hl
    split_ifs
    · exact .nil
    · exact .single (hd l (List.mem_of_getLast? hl)) _

/-! ### Rules on structure -/

theorem exists_of_mem_blocks {length : Nat} {ls : List Line} {b : Block}
    (h : b ∈ blocks length ls) : ∃ l ∈ ls, b.start = l.number := by
  induction ls with
  | nil => simp [blocks] at h
  | cons l ls ih =>
    rw [blocks] at h
    split_ifs at h
    · cases h
    · rcases List.mem_cons.1 h with rfl | h
      · exact ⟨l, List.mem_cons_self, rfl⟩
      · obtain ⟨l', hl', he⟩ := ih h
        exact ⟨l', List.mem_cons_of_mem l hl', he⟩

theorem repetition_anchors (hd : d.Numbered) (t : Thresholds) :
    d.Anchors (repetition t d) := by
  refine .map (fun o ho => ?_) _
  obtain ⟨hpos, hstart⟩ := of_mem_occurrences (List.mem_filter.1 ho).1
  -- the anchor is the first start, so that the default behind it is never taken
  obtain ⟨n, ns, hn⟩ := List.exists_cons_of_length_pos hpos
  obtain ⟨b, hb, he⟩ := hstart n (by rw [hn]; exact List.mem_cons_self)
  obtain ⟨l, hl, hb⟩ := exists_of_mem_blocks (List.mem_filter.1 hb).1
  rw [hn, List.headD_cons, he, hb]
  exact hd l hl

theorem functionCount_anchors {openings : List Nat} (h₁ : d.HasLine 1)
    (h : ∀ n ∈ openings, d.HasLine n) (t : Thresholds) :
    d.Anchors (functionCount t openings) := by
  intro f hf
  have hl := List.mem_map_of_mem (f := (·.line)) hf
  rw [functionCount_lines] at hl
  split_ifs at hl
  · rw [List.mem_singleton.1 hl]
    exact h₁
  · rw [List.mem_singleton.1 hl]
    exact h _ (List.get_mem _ _)
  · cases hl

theorem evaluateFunctionCount_anchors (hd : d.Numbered)
    (h : (evaluateFunctionCount d s).1 = .ok found) : d.Anchors found := by
  unfold evaluateFunctionCount at h
  split_ifs at h with he
  · cases h
    exact .nil
  · cases h
    refine functionCount_anchors (Document.hasLine_one he) (fun n hn => ?_) _
    obtain ⟨l, hl, rfl⟩ := List.mem_map.1 hn
    exact hd l (List.mem_filter.1 hl).1
  · cases h
    refine functionCount_anchors (Document.hasLine_one he) (fun n hn => ?_) _
    obtain ⟨p, hp, rfl⟩ := List.mem_map.1 hn
    exact hd p.1 (List.of_mem_zip (List.mem_filter.1 hp).1).1

theorem exists_of_mem_definitions {seen : List (List Char)} {ls : List Line}
    {f : List Char × Nat} (h : f ∈ definitions seen ls) :
    ∃ l ∈ ls, Declaration.functionName? l.text = some f.1 ∧ f.2 = l.number := by
  induction ls generalizing seen with
  | nil => simp [definitions] at h
  | cons l ls ih =>
    have later {seen : List (List Char)} (h : f ∈ definitions seen ls) :
        ∃ l' ∈ l :: ls, Declaration.functionName? l'.text = some f.1 ∧ f.2 = l'.number := by
      obtain ⟨l', hl', he⟩ := ih h
      exact ⟨l', List.mem_cons_of_mem l hl', he⟩
    rw [definitions] at h
    split at h
    · rename_i name hname
      split_ifs at h
      · exact later h
      · rcases List.mem_cons.1 h with rfl | h
        · exact ⟨l, List.mem_cons_self, hname, rfl⟩
        · exact later h
    · exact later h

theorem codeReuse_anchors (hd : d.Numbered) : d.Anchors (codeReuse d) := by
  refine .map (fun f hf => ?_) _
  obtain ⟨l, hl, -, he⟩ := exists_of_mem_definitions (List.mem_filter.1 hf).1
  rw [he]
  exact hd l hl

theorem evaluateIndentation_anchors (hd : d.Numbered)
    (h : (evaluateIndentation d s).1 = .ok found) : d.Anchors found := by
  simp only [evaluateIndentation] at h
  split at h
  · cases h
    exact indentationSpacing_anchors hd _ _
  · cases h

theorem evaluateRepetition_anchors (hd : d.Numbered)
    (h : evaluateRepetition d s = .ok found) : d.Anchors found := by
  unfold evaluateRepetition at h
  split_ifs at h
  cases h
  exact repetition_anchors hd _

theorem evaluateLeak_anchors {probe : LeakProbe} (h : (evaluateLeak probe d s).1 = .ok found) :
    d.Anchors found := by
  unfold evaluateLeak at h
  split_ifs at h with he
  · cases h
    exact .nil
  · rcases hv : probe d.path s.language s.disk with ⟨e | v, disk⟩
    · rw [hv] at h
      cases h
    · rw [hv] at h
      cases h
      unfold memoryLeak
      split
      · exact .nil
      · split
        · exact .single (Document.hasLine_one he) _
        · exact .single (Document.hasLine_one he) _

/-! ### Rules on names -/

/-- Findings on declarations that a test selects. -/
theorem anchors_of_declared {declared : List Declaration} (h : ∀ x ∈ declared, d.HasLine x.line)
    {r : RuleId} (selects : Declaration → Bool) (message : Declaration → String) :
    d.Anchors ((declared.filter selects).map fun x => .of r x.line (message x)) :=
  .map (fun x hx => h x (List.mem_filter.1 hx).1) message

theorem moduleName_anchors {declared : List Declaration} (h : ∀ x ∈ declared, d.HasLine x.line) :
    d.Anchors (moduleName declared) := by
  unfold moduleName
  split
  · exact .nil
  · rename_i first rest hm
    refine anchors_of_declared (fun x hx => h x ?_) _ _
    have hx : x ∈ fromModule declared := by
      rw [hm]
      exact List.mem_cons_of_mem first hx
    exact (List.mem_filter.1 ((List.dropWhile_sublist _).subset hx)).1

theorem onDeclarations_anchors {f : List Declaration → List Diagnostic}
    (hs : ∀ declared, (s.declarations d).1 = .ok declared → d.Anchors (f declared))
    (h : (onDeclarations f d s).1 = .ok found) : d.Anchors found := by
  simp only [onDeclarations] at h
  cases hr : (s.declarations d).1 with
  | error e => rw [hr] at h; cases h
  | ok declared =>
    rw [hr] at h
    cases h
    exact hs declared hr

theorem evaluateModule_anchors
    (hs : ∀ declared, (s.declarations d).1 = .ok declared → ∀ x ∈ declared, d.HasLine x.line)
    (h : (evaluateModule d s).1 = .ok found) : d.Anchors found := by
  unfold evaluateModule at h
  split at h
  · cases h
  · rename_i declared s' hr
    cases h
    exact moduleName_anchors (hs declared (by rw [hr]))

/-- **Findings are on lines of the document**, for every rule of the catalog.  The session must give
declarations on lines of the document; its thresholds do not matter. -/
theorem evaluate_anchors {probe : LeakProbe} {r : RuleId} (hd : d.Numbered) (hs : s.Anchored d)
    (h : (evaluate probe r d s).1 = .ok found) : d.Anchors found := by
  have hs := hs.declarations.1
  cases r with
  | functionCase =>
    exact onDeclarations_anchors (fun x hx => anchors_of_declared (hs x hx) _ _) h
  | variableCase =>
    refine onDeclarations_anchors (fun x hx => .filterMap (fun y hy => ?_) _) h
    exact hs x hx y (List.mem_filter.1 hy).1
  | pointerName => exact onDeclarations_anchors (fun x hx => anchors_of_declared (hs x hx) _ _) h
  | moduleName => exact evaluateModule_anchors hs h
  | typeCase => exact onDeclarations_anchors (fun x hx => anchors_of_declared (hs x hx) _ _) h
  | indentationSpacing => exact evaluateIndentation_anchors hd h
  | repetition => exact evaluateRepetition_anchors hd h
  | functionCount => exact evaluateFunctionCount_anchors hd h
  | memoryLeak => exact evaluateLeak_anchors h
  | includeDirective => cases h; exact includeDirective_anchors hd
  | totalLines => cases h; exact totalLines_anchors _ d
  | indentationChar => cases h; exact indentationChar_anchors hd
  | lineEndings => cases h; exact lineEndings_anchors hd
  | closingBrace => cases h; exact closingBrace_anchors hd
  | codeReuse => cases h; exact codeReuse_anchors hd
  | indentationTabs => cases h; exact .lines hd _ _
  | includeForm => cases h; exact .lines hd _ _
  | encoding => cases h; exact .lines hd _ _
  | excessWhitespace => cases h; exact .lines hd _ _
  | trailingWhitespace => cases h; exact .lines hd _ _

/-- Rules keep declarations on lines of the document. -/
theorem evaluate_anchored (probe : LeakProbe) (r : RuleId) (h : s.Anchored d) :
    (evaluate probe r d s).2.Anchored d := by
  have hd := h.declarations.2
  cases r with
  | functionCase | variableCase | pointerName | typeCase => exact hd
  | moduleName =>
    simp only [evaluate, evaluateModule]
    split
    · rename_i hr
      rw [hr] at hd
      exact hd
    · rename_i hr
      rw [hr] at hd
      exact ⟨hd.source, hd.known⟩
  | indentationSpacing =>
    simp only [evaluate, evaluateIndentation]
    split
    · exact ⟨h.source, h.known⟩
    · exact ⟨h.source, h.known⟩
  | functionCount =>
    simp only [evaluate, evaluateFunctionCount]
    split_ifs
    · exact h
    · exact h
    · exact ⟨h.source, h.known⟩
  | memoryLeak =>
    simp only [evaluate, evaluateLeak]
    split_ifs
    · exact h
    · exact ⟨h.source, h.known⟩
  | _ => exact h

end Rule

end StyleAudit
