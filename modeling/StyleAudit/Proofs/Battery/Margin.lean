import StyleAudit.Proofs.Battery.FailingSource
import StyleAudit.Proofs.Rule.Margin

/-!
# Reports and the edges of lines

Rules on indentation, tabs, blanks at the end of lines, terminators, encoding and repetition may
tell two sources apart that have the same trimmed lines.  The twelve rules of `RuleId.structural`
find the same in both, alone or in a run of any rules, and the run establishes the same module
(`Battery.run_catalog_margin`).
-/

namespace StyleAudit

namespace Battery

variable {d d' : Document} {s₀ : Session} (probe : LeakProbe)

/-- The findings of twelve rules in a run, and the module it establishes, do not depend on the edges
of lines. -/
theorem run_catalog_of_bare_eq (hb : d'.bare = d.bare) (hl : d'.language = d.language)
    (hperl : s₀.language ≠ .perl) (hk : s₀.known = none) (hs : s₀.source = .ofLines)
    (rules : List RuleId) :
    let b : Battery := rules.map (Check.catalog probe)
    (b.run d' s₀).1.map (fun report => report.diagnostics.filter (·.rule ∈ RuleId.structural)) =
        (b.run d s₀).1.map (fun report => report.diagnostics.filter (·.rule ∈ RuleId.structural)) ∧
      (b.run d' s₀).2.established = (b.run d s₀).2.established := by
  have hsize : d'.size = d.size := by rw [← d'.size_bare, hb, d.size_bare]
  have hmodule : Rule.moduleOf d'.declarations = Rule.moduleOf d.declarations := by
    rw [← d'.declarations_bare, hb, d.declarations_bare]
  have hsame : ∀ r ∈ RuleId.structural, recorded d' (Rule.evaluate probe r d' s₀).1 =
      (recorded d (Rule.evaluate probe r d s₀).1).map id := fun r hr => by
    rw [Rule.evaluate_eq_of_bare_eq probe hb hr (fun _ => hperl) hs, recorded_of_size hsize,
      List.map_id]
  have h := run_catalog_filter_map probe hl hk hs hmodule
    (Rule.evaluateIndentation_eq_overflow_of_bare_eq hb) (by decide) id hsame rules
  simpa only [List.map_id] using h

/-- **Blanks at the edges of lines are invisible to twelve rules.**  Of two sources in the same
language of the C family whose lines are equal but for blanks at their edges, the rules on
inclusions, length, names, the number of functions, the closing brace, reuse and spaces between
words find the same, in a session of their own or in a run of any rules, and after such a run the
same module is established.  If a run has a report for one of the sources, so it has for the
other. -/
theorem run_catalog_margin (t : Thresholds) (disk : Disk) {path path' : Path}
    {bytes bytes' : List UInt8}
    (hc : path.language.isCFamily) (hl : path'.language = path.language)
    (ht : (Document.ofBytes path' bytes').lines.map Line.trimmed =
      (Document.ofBytes path bytes).lines.map Line.trimmed) :
    let d := Document.ofBytes path bytes
    let d' := Document.ofBytes path' bytes'
    let s := Session.start path.language t .ofLines disk
    (∀ r ∈ RuleId.structural, ∃ found,
      (Rule.evaluate probe r d s).1 = .ok found ∧ (Rule.evaluate probe r d' s).1 = .ok found) ∧
    ∀ rules : List RuleId,
      let b : Battery := rules.map (Check.catalog probe)
      (b.run d' s).1.map (fun report => report.diagnostics.filter (·.rule ∈ RuleId.structural)) =
          (b.run d s).1.map (fun report => report.diagnostics.filter (·.rule ∈ RuleId.structural)) ∧
        (b.run d' s).2.established = (b.run d s).2.established := by
  intro d d' s
  have hb : d'.bare = d.bare := by
    rw [Document.bare_ofBytes, Document.bare_ofBytes, ht]
  have hperl : s.language ≠ .perl := fun h => by
    have h : path.language = .perl := h
    rw [h] at hc
    cases hc
  refine ⟨fun r hr => ?_, fun rules => ?_⟩
  · have hne (r' : RuleId) (h : r' ∉ RuleId.structural) : r ≠ r' := fun e => h (e ▸ hr)
    obtain ⟨found, hf⟩ := Rule.exists_evaluate_eq_ok (d := d) (s := s) probe
      (hne .memoryLeak (by decide)) (fun h => absurd h (hne .indentationSpacing (by decide)))
      (fun h => absurd h (hne .repetition (by decide))) rfl rfl
    refine ⟨found, hf, ?_⟩
    rw [Rule.evaluate_eq_of_bare_eq probe hb hr (fun _ => hperl) rfl, hf]
  · exact run_catalog_of_bare_eq probe hb hl hperl rfl rfl rules

/-- A header that establishes a module and names a function on two lines. -/
def plainHeader : List UInt8 :=
  Utf8.encode "#include <a.h>\nint MODULE_x;\nint f(int N) \x7b\nreturn f(N);\n\x7d\n".toList

/-- The same header with tabs, wide spaces and carriage returns at the edges of its lines. -/
def indentedHeader : List UInt8 :=
  Utf8.encode ("\u00A0#include <a.h>\t\r\n int MODULE_x;\r\n" ++
    "int f(int N) \x7b  \n\t\u3000return f(N);\u0085\n\t\x7d").toList

theorem run_catalog_margin_indented :
    let path : Path := ⟨"a.h"⟩
    let path' : Path := ⟨"b.HPP"⟩
    let d := Document.ofBytes path plainHeader
    let d' := Document.ofBytes path' indentedHeader
    let s := Session.start path.language {} .ofLines .empty
    let b : Battery := RuleId.standard.map (Check.catalog fun _ _ disk => (.ok ⟨true, none⟩, disk))
    path.language.isCFamily ∧ path'.language = path.language ∧
      d'.lines.map Line.trimmed = d.lines.map Line.trimmed ∧
      (b.run d' s).1.map (·.diagnostics.length) = some 11 ∧
      (b.run d s).1.map (fun report =>
          (report.diagnostics.filter (·.rule ∈ RuleId.structural)).map (·.rule)) =
        some [.moduleName, .codeReuse] ∧
      (b.run d' s).1.map (fun report => report.diagnostics.filter (·.rule ∈ RuleId.structural)) =
        (b.run d s).1.map (fun report => report.diagnostics.filter (·.rule ∈ RuleId.structural)) ∧
      (b.run d s).2.established = some "MODULE_x".toList ∧
      (b.run d' s).2.established = (b.run d s).2.established := by
  intro path path' d d' s b
  have hc : path.language.isCFamily := by decide +kernel
  have hl : path'.language = path.language := by decide +kernel
  have ht : d'.lines.map Line.trimmed = d.lines.map Line.trimmed := by decide +kernel
  have h := (run_catalog_margin (fun _ _ disk => (.ok ⟨true, none⟩, disk)) {} .empty hc hl ht).2
    RuleId.standard
  refine ⟨hc, hl, ht, by decide +kernel, by decide +kernel, ?_, by decide +kernel, ?_⟩
  -- unfolded first, since comparing the runs through the names would evaluate them
  · simp only [b, d, d', s]
    exact h.1
  · simp only [b, d, d', s]
    exact h.2

end Battery

end StyleAudit
