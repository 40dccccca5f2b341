import StyleAudit.Proofs.Battery.Isolation
import StyleAudit.Proofs.Rule.Anchor

/-!
# Reports are complete

A run drops findings on lines that the document does not have.  No rule of the catalog makes such
findings, so that the report of a run of rules holds all that they returned
(`Battery.run_catalog_complete`).
-/

namespace StyleAudit

theorem Document.Anchors.eq_nil {d : Document} {found : List Diagnostic} (h : d.Anchors found)
    (he : d.isEmpty = true) : found = [] := by
  rw [List.eq_nil_iff_forall_not_mem]
  intro f hf
  obtain ⟨h₁, h₂⟩ := h f hf
  have hsize : d.size = 0 := by
    rw [size, List.isEmpty_iff.1 he]
    rfl
  omega

namespace Battery

variable {d : Document} {s : Session} (probe : LeakProbe)

theorem recorded_eq_of_anchors {f : Findings} (h : ∀ found, f = .ok found → d.Anchors found) :
    recorded d f = f.toOption.getD [] := by
  cases f with
  | error e => rfl
  | ok found =>
    refine List.filter_eq_self.2 fun x hx => ?_
    obtain ⟨h₁, h₂⟩ := h found rfl x hx
    simp [h₁, h₂]

/-- If declarations are on lines of the document, a run of rules records all findings. -/
theorem run_catalog_diagnostics_of_anchored (hd : d.Numbered) (hs : s.Anchored d)
    {rules : List RuleId} {report : Report}
    (h : (Battery.run (rules.map (Check.catalog probe)) d s).1 = some report) :
    report.diagnostics =
      (answers d (rules.map (Check.catalog probe)) s).flatMap fun a => a.2.toOption.getD [] := by
  rw [run_diagnostics h]
  refine List.flatMap_congr fun a ha => recorded_eq_of_anchors fun found hf => ?_
  obtain ⟨-, -, s', hs', hanswer⟩ := exists_of_mem_answers probe (I := (·.Anchored d))
    (fun r _ s => Rule.evaluate_anchored probe r) hs ha
  exact Rule.evaluate_anchors hd hs' (hanswer.symm.trans hf)

/-- **Nothing that a rule of the catalog finds is dropped.**  Let a document be loaded from any
bytes, with any thresholds, and let declarations come from its lines or from any output of a
preprocessor.  Then every rule makes its findings on lines of the document, under its own name and
with its own severity, and so none in an empty document; a run of rules records all that they
return.  Every position that a rule looks up is in its list: that of the first function too many,
that of the first of several equal blocks, and that behind the symbol that establishes a module. -/
theorem run_catalog_complete (path : Path) (bytes : List UInt8) (t : Thresholds) (naming : Naming)
    (tools : Tools) (disk : Disk) :
    let d := Document.ofBytes path bytes
    let s := Session.start d.language t (naming.source tools) disk
    (∀ r found, (Rule.evaluate probe r d s).1 = .ok found →
      (∀ f ∈ found, (1 ≤ f.line ∧ f.line ≤ d.size) ∧ f.rule = r ∧ f.severity = r.severity) ∧
        (d.isEmpty = true → found = [])) ∧
      (∀ (rules : List RuleId) (report : Report),
        (Battery.run (rules.map (Check.catalog probe)) d s).1 = some report →
        report.diagnostics =
          (answers d (rules.map (Check.catalog probe)) s).flatMap fun a =>
            a.2.toOption.getD []) ∧
      (∀ openings : List Nat,
        (Rule.functionCount t openings).map (·.line) =
          if openings.length < t.minFunctions then [1]
          else if h : t.maxFunctions < openings.length then [openings.get ⟨t.maxFunctions, h⟩]
          else []) ∧
      (∀ o ∈ Rule.occurrences (Rule.substantialBlocks t.sequenceLength d), 0 < o.2.length) ∧
      ∀ (declared : List Declaration) (marker : Nat),
        (declared.filter (·.topLevel)).findIdx? Rule.establishesModule = some marker →
        ∃ _ : marker + 1 ≤ (declared.filter (·.topLevel)).length,
          Rule.fromModule declared =
            (declared.filter (·.topLevel))[marker] ::
              (declared.filter (·.topLevel)).drop (marker + 1) := by
  intro d s
  have hd : d.Numbered := Document.numbered_ofBytes path bytes
  have hs : s.Anchored d := .of_source rfl (naming.source_anchors tools hd)
  have ha : ∀ r found, (Rule.evaluate probe r d s).1 = .ok found → d.Anchors found :=
    fun _ _ => Rule.evaluate_anchors hd hs
  refine ⟨fun r found h => ⟨fun f hf => ?_, (ha r found h).eq_nil⟩,
    fun _ _ => run_catalog_diagnostics_of_anchored probe hd hs, Rule.functionCount_lines t,
    fun o ho => (Rule.of_mem_occurrences ho).1, fun _ _ => Rule.fromModule_eq⟩
  have hl := Rule.evaluate_label h
  exact ⟨ha r found h f hf, hl.rule_eq hf, hl.severity_eq hf⟩

/-- A preprocessor that puts one declaration on a line that the document does not have, and another
one on its only line. -/
def farMarker : Tools := fun disk _ =>
  .ok (⟨.code 0, Utf8.encode "# 9 \"a.c\"\nint b;\n# 1 \"a.c\"\nint c;\n".toList, []⟩, disk)

theorem run_catalog_complete_farMarker :
    let d := Document.ofBytes ⟨"a.c"⟩ (Utf8.encode "int a;\n".toList)
    let s := Session.start d.language { maxLines := 0, minFunctions := 2, maxFunctions := 0 }
      (Naming.source { preprocess := true } farMarker) .empty
    let probe : LeakProbe := fun _ _ disk => (.ok ⟨false, none⟩, disk)
    ∃ found, (Rule.evaluate probe .variableCase d s).1 = .ok found ∧ found.length = 1 ∧
      ∀ f ∈ found, 1 ≤ f.line ∧ f.line ≤ d.size := by
  intro d s probe
  have hc := run_catalog_complete probe ⟨"a.c"⟩ (Utf8.encode "int a;\n".toList)
    { maxLines := 0, minFunctions := 2, maxFunctions := 0 } { preprocess := true } farMarker .empty
  have hlen : (Rule.evaluate probe .variableCase d s).1.toOption.map (·.length) = some 1 := by
    decide +kernel
  cases h : (Rule.evaluate probe .variableCase d s).1 with
  | error e => rw [h] at hlen; cases hlen
  | ok found =>
    rw [h] at hlen
    exact ⟨found, rfl, Option.some.inj hlen, fun f hf => ((hc.1 _ found h).1 f hf).1⟩

end Battery

end StyleAudit
