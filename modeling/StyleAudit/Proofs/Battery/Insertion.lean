import StyleAudit.Proofs.Battery.Complete
import StyleAudit.Proofs.Battery.FailingSource
import StyleAudit.Proofs.Rule.Insertion

/-!
# Reports and lines that are put in

A blank line or a comment may be put anywhere in a source, and the comment may hold anything:
braces, keywords, declarations, spaces in a row.  The rules of `RuleId.transparent` find the same as
before, with the same messages, on the lines that now stand one further down, and a run establishes
the same module (`Battery.run_catalog_insertion`).
-/

namespace StyleAudit

namespace Battery

variable {d d' : Document} {s₀ : Session} (probe : LeakProbe)

/-- The same findings as before are recorded, on lines that are numbered anew. -/
theorem recorded_inserted {g : Nat → Nat} {t : List Char} (h : d.Inserts g t d')
    (ht : Text.isBlankOrComment (Text.trim t) = true) (hk : s₀.known = none)
    (hs : s₀.source = .ofLines) (hd : d.Numbered) (hd' : d'.Numbered)
    {r : RuleId} (hr : r ∈ RuleId.transparent) :
    recorded d' (Rule.evaluate probe r d' s₀).1 =
      (recorded d (Rule.evaluate probe r d s₀).1).map (Diagnostic.renumber g) := by
  have hanchors {d : Document} (hd : d.Numbered) :
      ∀ found, (Rule.evaluate probe r d s₀).1 = .ok found → d.Anchors found :=
    fun _ => Rule.evaluate_anchors hd
      (.of_source hk (hs ▸ DeclarationSource.ofLines_anchors hd))
  rw [recorded_eq_of_anchors (hanchors hd'), recorded_eq_of_anchors (hanchors hd),
    Rule.evaluate_inserted probe h ht hk hs hr]
  cases (Rule.evaluate probe r d s₀).1 <;> rfl

/-- Eight rules answer as before, on lines that are numbered anew, and do not fail. -/
theorem evaluate_of_inserts {g : Nat → Nat} {t : List Char} (h : d.Inserts g t d')
    (ht : Text.isBlankOrComment (Text.trim t) = true) (hk : s₀.known = none)
    (hs : s₀.source = .ofLines) {r : RuleId} (hr : r ∈ RuleId.transparent) :
    (∃ found, (Rule.evaluate probe r d s₀).1 = .ok found ∧
      (Rule.evaluate probe r d' s₀).1 = .ok (found.map (Diagnostic.renumber g))) ∨
    (r = .indentationSpacing ∧ (Rule.evaluate probe r d s₀).1 = .error .overflow ∧
      (Rule.evaluate probe r d' s₀).1 = .error .overflow) := by
  have hne (r' : RuleId) (h : r' ∉ RuleId.transparent) : r ≠ r' := fun e => h (e ▸ hr)
  have hsame := Rule.evaluate_inserted probe h ht hk hs hr
  by_cases ho : r = .indentationSpacing ∧
      Rule.Overflows s₀.thresholds.indentWidth d (s₀.observeAll d).1
  · obtain ⟨rfl, ho⟩ := ho
    have hover : (Rule.evaluate probe .indentationSpacing d s₀).1 = .error .overflow :=
      Rule.evaluateIndentation_eq_overflow_iff.2 ho
    exact .inr ⟨rfl, hover, by rw [hsame, hover]; rfl⟩
  · obtain ⟨found, hf⟩ := Rule.exists_evaluate_eq_ok probe (hne .memoryLeak (by decide))
      (fun hi h => ho ⟨hi, h⟩) (fun h => absurd h (hne .repetition (by decide))) hk
      (s := s₀) (d := d) (by rw [hs]; rfl)
    exact .inl ⟨found, hf, by rw [hsame, hf]; rfl⟩

/-- The findings of eight rules in a run are those from before, on lines that are numbered anew, and
the run establishes the same module. -/
theorem run_catalog_of_inserts {g : Nat → Nat} {t : List Char} (h : d.Inserts g t d')
    (ht : Text.isBlankOrComment (Text.trim t) = true) (hl : d'.language = d.language)
    (hk : s₀.known = none) (hs : s₀.source = .ofLines) (hd : d.Numbered) (hd' : d'.Numbered)
    (rules : List RuleId) :
    let b : Battery := rules.map (Check.catalog probe)
    (b.run d' s₀).1.map (fun report =>
        report.diagnostics.filter (·.rule ∈ RuleId.transparent)) =
        (b.run d s₀).1.map (fun report =>
          (report.diagnostics.filter (·.rule ∈ RuleId.transparent)).map
            (Diagnostic.renumber g)) ∧
      (b.run d' s₀).2.established = (b.run d s₀).2.established := by
  refine run_catalog_filter_map probe hl hk hs ?_ ?_ (by decide) _ (fun r hr => ?_) rules
  · rw [Document.declarations_inserted h ht, Rule.moduleOf_renumber]
  · rw [Rule.evaluateIndentation_inserted h ht]
    rcases (Rule.evaluateIndentation d s₀).1 with (_ | _) | _ <;> simp [Except.map]
  · exact recorded_inserted probe h ht hk hs hd hd' hr

/-- **Blank lines and comments are transparent to eight rules.**  Let the lines of a source be those
of another one in the same language, with one line put in behind the first `k` whose trimmed text is
empty or starts a comment.  Then the rules on indentation, inclusions, names and spaces between
words find the same in both, in a session of their own or in a run of any rules, but that the lines
behind the first `k` stand one further down; and after such a run the same module is established.
None of these rules fails.  The one on indentation overflows on both sources or on neither, and so
either both runs have a report or none has. -/
theorem run_catalog_insertion (t : Thresholds) (disk : Disk) {path path' : Path}
    {bytes bytes' : List UInt8} {k : Nat} {text : List Char} (hl : path'.language = path.language)
    (hk : k ≤ (Document.ofBytes path bytes).size)
    (htext : Text.isBlankOrComment (Text.trim text) = true)
    (hlines : (Document.ofBytes path' bytes').lines.map (·.text) =
      ((Document.ofBytes path bytes).lines.map (·.text)).insertIdx k text) :
    let d := Document.ofBytes path bytes
    let d' := Document.ofBytes path' bytes'
    let s := Session.start path.language t .ofLines disk
    (∀ r ∈ RuleId.transparent,
      (∃ found, (Rule.evaluate probe r d s).1 = .ok found ∧
        (Rule.evaluate probe r d' s).1 = .ok (found.map (Diagnostic.renumber (moved k)))) ∨
      (r = .indentationSpacing ∧ (Rule.evaluate probe r d s).1 = .error .overflow ∧
        (Rule.evaluate probe r d' s).1 = .error .overflow)) ∧
    ∀ rules : List RuleId,
      let b : Battery := rules.map (Check.catalog probe)
      (b.run d' s).1.map (fun report =>
          report.diagnostics.filter (·.rule ∈ RuleId.transparent)) =
          (b.run d s).1.map (fun report =>
            (report.diagnostics.filter (·.rule ∈ RuleId.transparent)).map
              (Diagnostic.renumber (moved k))) ∧
        (b.run d' s).2.established = (b.run d s).2.established := by
  intro d d' s
  have hinserts : d.Inserts (moved k) text d' := Document.inserts_ofBytes hk hlines
  exact ⟨fun r hr => evaluate_of_inserts probe hinserts htext rfl rfl hr,
    run_catalog_of_inserts probe hinserts htext hl rfl rfl (Document.numbered_ofBytes path bytes)
      (Document.numbered_ofBytes path' bytes')⟩

/-- A header with a block in a function that is indented too little. -/
def uncommented : List UInt8 :=
  Utf8.encode ("#include <a.h>\nint MODULE_x;\nint F(int N) \x7b\n  if (N) \x7b\n" ++
    "  return  N;\n  \x7d\n\x7d\nint *y;\n").toList

/-- The same header with a comment in the block that is made of braces, a keyword, spaces and a
declaration, and with other terminators. -/
def commented : List UInt8 :=
  Utf8.encode ("#include <a.h>\r\nint MODULE_x;\nint F(int N) \x7b\n  if (N) \x7b\r\n" ++
    "\t// \x7d while \x7b\x7b  int  z;\n  return  N;\n  \x7d\n\x7d\nint *y;").toList

theorem run_catalog_insertion_commented :
    let path : Path := ⟨"a.h"⟩
    let path' : Path := ⟨"b.h"⟩
    let text := "\t// \x7d while \x7b\x7b  int  z;".toList
    let d := Document.ofBytes path uncommented
    let d' := Document.ofBytes path' commented
    let s := Session.start path.language {} .ofLines .empty
    let b : Battery := RuleId.standard.map (Check.catalog fun _ _ disk => (.ok ⟨true, none⟩, disk))
    path'.language = path.language ∧ 4 ≤ d.size ∧ Text.isBlankOrComment (Text.trim text) ∧
      d'.lines.map (·.text) = (d.lines.map (·.text)).insertIdx 4 text ∧
      (b.run d s).1.map (fun report =>
          (report.diagnostics.filter (·.rule ∈ RuleId.transparent)).map (·.line)) =
        some [4, 5, 3, 8, 3, 8, 5] ∧
      (b.run d' s).1.map (fun report =>
          report.diagnostics.filter (·.rule ∈ RuleId.transparent)) =
        (b.run d s).1.map (fun report =>
          (report.diagnostics.filter (·.rule ∈ RuleId.transparent)).map
            (Diagnostic.renumber (moved 4))) ∧
      (b.run d s).2.established = some "MODULE_x".toList ∧
      (b.run d' s).2.established = (b.run d s).2.established := by
  intro path path' text d d' s b
  have hl : path'.language = path.language := by decide +kernel
  have hk : 4 ≤ d.size := by decide +kernel
  have htext : Text.isBlankOrComment (Text.trim text) = true := by decide +kernel
  have hlines : d'.lines.map (·.text) = (d.lines.map (·.text)).insertIdx 4 text := by
    decide +kernel
  obtain ⟨hfound, hmodule⟩ :=
    (run_catalog_insertion (fun _ _ disk => (.ok ⟨true, none⟩, disk)) {} .empty hl hk htext
      hlines).2 RuleId.standard
  refine ⟨hl, hk, htext, hlines, by decide +kernel, ?_, by decide +kernel, ?_⟩
  -- unfolded first, since comparing the runs through the names would evaluate them
  · simp only [b, d, d', s]
    exact hfound
  · simp only [b, d, d', s]
    exact hmodule

end Battery

end StyleAudit
