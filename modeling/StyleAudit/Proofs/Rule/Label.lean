import StyleAudit.Rule.Check

/-!
# Labels of findings

Every rule of the catalog reports under its own name and with its own severity, whatever the
document, the session and the tools (`Rule.evaluate_label`).  Rules build their findings in three
ways: one finding, one for each selected item, or one for each item that has a problem.
-/

namespace StyleAudit

/-- Findings made by the rule `r`. -/
def RuleId.Labels (r : RuleId) (found : List Diagnostic) : Prop :=
  ∀ f ∈ found, ∃ line message, f = .of r line message

namespace RuleId.Labels

variable {r : RuleId} {found : List Diagnostic}

theorem rule_eq (h : r.Labels found) {f : Diagnostic} (hf : f ∈ found) : f.rule = r := by
  obtain ⟨line, message, rfl⟩ := h f hf
  rfl

theorem severity_eq (h : r.Labels found) {f : Diagnostic} (hf : f ∈ found) :
    f.severity = r.severity := by
  obtain ⟨line, message, rfl⟩ := h f hf
  rfl

theorem nil : r.Labels [] := by
  simp [Labels]

theorem single (line : Nat) (message : String) : r.Labels [.of r line message] := by
  intro f hf
  exact ⟨line, message, List.mem_singleton.1 hf⟩

theorem map {α : Type} (items : List α) (line : α → Nat) (message : α → String) :
    r.Labels (items.map fun a => .of r (line a) (message a)) := by
  intro f hf
  obtain ⟨a, -, rfl⟩ := List.mem_map.1 hf
  exact ⟨line a, message a, rfl⟩

theorem filterMap {α : Type} (items : List α) (line : α → Nat) (problem : α → Option String) :
    r.Labels (items.filterMap fun a => (problem a).map (.of r (line a) ·)) := by
  intro f hf
  obtain ⟨a, -, ha⟩ := List.mem_filterMap.1 hf
  obtain ⟨message, -, rfl⟩ := Option.map_eq_some_iff.1 ha
  exact ⟨line a, message, rfl⟩

end RuleId.Labels

namespace Rule

open RuleId (Labels)

theorem includeDirective_label (d : Document) : Labels .includeDirective (includeDirective d) := by
  unfold includeDirective
  split
  · exact .nil
  · split
    · split
      · exact .nil
      · exact .single _ _
    · exact .single _ _

theorem totalLines_label (t : Thresholds) (d : Document) :
    Labels .totalLines (totalLines t d) := by
  unfold totalLines
  split
  · exact .nil
  · exact .single _ _

theorem moduleName_label (found : List Declaration) : Labels .moduleName (moduleName found) := by
  unfold moduleName
  split
  · exact .nil
  · exact .map _ _ _

theorem functionCount_label (t : Thresholds) (openings : List Nat) :
    Labels .functionCount (functionCount t openings) := by
  unfold functionCount
  split
  · exact .single _ _
  · split
    · exact .nil
    · exact .single _ _

theorem indentationChar_label (d : Document) :
    Labels .indentationChar (indentationChar d) := by
  unfold indentationChar
  split
  · exact .nil
  · exact .map _ _ _

theorem lineEndings_label (d : Document) : Labels .lineEndings (lineEndings d) := by
  unfold lineEndings
  split
  · exact .nil
  · rename_i first rest _
    cases rest.find? fun l => l.ending != first.ending with
    | none => exact .nil
    | some l => exact .single _ _

theorem closingBrace_label (d : Document) : Labels .closingBrace (closingBrace d) := by
  unfold closingBrace
  split
  · exact .nil
  · split
    · exact .nil
    · exact .single _ _

theorem memoryLeak_label (v : LeakVerdict) : Labels .memoryLeak (memoryLeak v) := by
  unfold memoryLeak
  split
  · exact .nil
  · split
    · exact .single _ _
    · exact .single _ _

theorem onDeclarations_label {r : RuleId} {f : List Declaration → List Diagnostic}
    (hf : ∀ found, r.Labels (f found)) {d : Document} {s : Session} {found : List Diagnostic}
    (h : (onDeclarations f d s).1 = .ok found) : r.Labels found := by
  simp only [onDeclarations] at h
  cases hd : (s.declarations d).1 with
  | error e => rw [hd] at h; cases h
  | ok declared =>
    rw [hd] at h
    cases h
    exact hf declared

theorem evaluateModule_label {d : Document} {s : Session} {found : List Diagnostic}
    (h : (evaluateModule d s).1 = .ok found) : Labels .moduleName found := by
  unfold evaluateModule at h
  split at h
  · cases h
  · cases h
    exact moduleName_label _

theorem evaluateIndentation_label {d : Document} {s : Session} {found : List Diagnostic}
    (h : (evaluateIndentation d s).1 = .ok found) : Labels .indentationSpacing found := by
  simp only [evaluateIndentation] at h
  split at h
  · cases h
    exact .filterMap _ _ _
  · cases h

theorem evaluateRepetition_label {d : Document} {s : Session} {found : List Diagnostic}
    (h : evaluateRepetition d s = .ok found) : Labels .repetition found := by
  unfold evaluateRepetition at h
  split at h
  · cases h
  · cases h
    exact .map _ _ _

theorem evaluateFunctionCount_label {d : Document} {s : Session} {found : List Diagnostic}
    (h : (evaluateFunctionCount d s).1 = .ok found) : Labels .functionCount found := by
  unfold evaluateFunctionCount at h
  split at h
  · cases h
    exact .nil
  · split at h
    · cases h
      exact functionCount_label _ _
    · cases h
      exact functionCount_label _ _

theorem evaluateLeak_label {probe : LeakProbe} {d : Document} {s : Session}
    {found : List Diagnostic} (h : (evaluateLeak probe d s).1 = .ok found) :
    Labels .memoryLeak found := by
  unfold evaluateLeak at h
  split at h
  · cases h
    exact .nil
  · rcases hv : probe d.path s.language s.disk with ⟨e | v, disk⟩
    · rw [hv] at h
      cases h
    · rw [hv] at h
      cases h
      exact memoryLeak_label v

/-- **Rules report under their own label.** -/
theorem evaluate_label {probe : LeakProbe} {r : RuleId} {d : Document} {s : Session}
    {found : List Diagnostic} (h : (evaluate probe r d s).1 = .ok found) : r.Labels found := by
  cases r with
  | functionCase => exact onDeclarations_label (fun _ => .map _ _ _) h
  | variableCase => exact onDeclarations_label (fun _ => .filterMap _ _ _) h
  | pointerName => exact onDeclarations_label (fun _ => .map _ _ _) h
  | moduleName => exact evaluateModule_label h
  | typeCase => exact onDeclarations_label (fun _ => .map _ _ _) h
  | indentationSpacing => exact evaluateIndentation_label h
  | repetition => exact evaluateRepetition_label h
  | functionCount => exact evaluateFunctionCount_label h
  | memoryLeak => exact evaluateLeak_label h
  | includeDirective => cases h; exact includeDirective_label d
  | totalLines => cases h; exact totalLines_label _ d
  | indentationTabs => cases h; exact .map _ _ _
  | includeForm => cases h; exact .map _ _ _
  | encoding => cases h; exact .map _ _ _
  | indentationChar => cases h; exact indentationChar_label d
  | lineEndings => cases h; exact lineEndings_label d
  | closingBrace => cases h; exact closingBrace_label d
  | codeReuse => cases h; exact .map _ _ _
  | excessWhitespace => cases h; exact .map _ _ _
  | trailingWhitespace => cases h; exact .map _ _ _

end Rule

end StyleAudit
