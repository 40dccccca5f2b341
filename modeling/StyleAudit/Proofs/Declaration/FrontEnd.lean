import StyleAudit.Proofs.Source.Lines
import StyleAudit.Tool.Preprocessor

/-!
# Two ways to the declarations of a source

Declarations are read off the lines of a document, or off the output of a preprocessor.  The second
way decodes the output as a whole, cuts it into lines, numbers them by the markers among them,
leaves out blank lines and drops lines that the document does not have.

`Preprocessor.declarations_agree` says that both ways give the same declarations if the preprocessor
changes nothing and no line of the source is a marker.  The lines are the same by
`Document.map_text_ofBytes`; without markers they are numbered from 1 (`Marker.locate_eq`), and
blank lines declare nothing (`Declaration.scan_filter`).
-/

namespace StyleAudit

/-- Lines with their numbers, from `first` on. -/
def numberedFrom (first : Nat) (ls : List (List Char)) : List (Nat × List Char) :=
  (ls.zipIdx first).map Prod.swap

theorem numberedFrom_cons (first : Nat) (line : List Char) (ls : List (List Char)) :
    numberedFrom first (line :: ls) = (first, line) :: numberedFrom (first + 1) ls := rfl

theorem le_of_mem_numberedFrom {first : Nat} {ls : List (List Char)} {l : Nat × List Char}
    (h : l ∈ numberedFrom first ls) : first ≤ l.1 ∧ l.1 < first + ls.length := by
  obtain ⟨⟨line, n⟩, hl, rfl⟩ := List.mem_map.1 h
  exact ⟨(List.mem_zipIdx hl).1, (List.mem_zipIdx hl).2.1⟩

/-- The lines of a document carry their numbers. -/
theorem Document.map_number_text (path : Path) (bytes : List UInt8) :
    ((ofBytes path bytes).lines.map fun l => (l.number, l.text)) =
      numberedFrom 1 (Text.lines (Utf8.decode bytes)) := by
  rw [← map_text_ofBytes path]
  change ((number 1 (RawLine.split bytes)).map fun l => (l.number, l.text)) =
    numberedFrom 1 ((number 1 (RawLine.split bytes)).map (·.text))
  generalize RawLine.split bytes = raws
  generalize 1 = first
  induction raws generalizing first with
  | nil => rfl
  | cons raw raws ih =>
    rw [number, List.map_cons, List.map_cons, numberedFrom_cons, ih]
    rfl

/-- A line that is not blank. -/
def isInked (l : Nat × List Char) : Bool := !(Text.trim l.2).isEmpty

/-! ### Markers -/

namespace Marker

/-- Without markers, lines are numbered one by one as long as there are counts. -/
theorem locateFrom_eq {ls : List (List Char)} (h : ∀ line ∈ ls, read? line = none) (source : Path)
    {next : Nat} (hn : next + ls.length < countBound) :
    locateFrom source next true ls = some ((numberedFrom next ls).filter isInked) := by
  induction ls generalizing next with
  | nil => rfl
  | cons line ls ih =>
    rw [List.length_cons] at hn
    have hlater := @ih (fun l hl => h l (List.mem_cons_of_mem _ hl)) (next + 1) (by omega)
    rw [locateFrom, h line List.mem_cons_self, numberedFrom_cons, List.filter_cons]
    simp only [hlater, Option.map_some]
    rw [if_pos (by omega)]
    rfl

theorem locate_eq {output : List Char} (h : ∀ line ∈ Text.lines output, read? line = none)
    (source : Path) (hn : (Text.lines output).length + 1 < countBound) :
    locate output source = some ((numberedFrom 1 (Text.lines output)).filter isInked) :=
  locateFrom_eq h source (by omega)

end Marker

/-! ### Blank lines -/

namespace Declaration

theorem scanFrom_filter (depth : Nat) (ls : List (Nat × List Char)) :
    scanFrom depth (ls.filter isInked) = scanFrom depth ls := by
  induction ls generalizing depth with
  | nil => rfl
  | cons l ls ih =>
    obtain ⟨number, line⟩ := l
    rw [List.filter_cons]
    split_ifs with hl
    · simp only [scanFrom, ih]
    · have hblank : Text.trim line = [] := by simpa [isInked] using hl
      rw [ih, scanFrom, hblank]
      rfl

/-- Blank lines declare nothing. -/
theorem scan_filter (ls : List (Nat × List Char)) : scan (ls.filter isInked) = scan ls :=
  scanFrom_filter 0 ls

end Declaration

namespace Preprocessor

/-- The declarations of a document in the lines that a preprocessor left. -/
theorem exists_locate_eq_some (path : Path) {content : List UInt8}
    (hsize : content.length + 1 < countBound)
    (hm : ∀ line ∈ Text.lines (Utf8.decode content), Marker.read? line = none) :
    ∃ located, Marker.locate (Utf8.decode content) path = some located ∧
      Declaration.scan (located.filter fun l =>
          1 ≤ l.1 && l.1 ≤ (Document.ofBytes path content).size) =
        (Document.ofBytes path content).declarations := by
  have hd := Document.map_number_text path content
  have hlen : (Text.lines (Utf8.decode content)).length = (Document.ofBytes path content).size := by
    rw [← Document.map_text_ofBytes path, List.length_map]
    rfl
  have hbound := Document.size_ofBytes_le path content
  have hrange : ∀ l ∈ (numberedFrom 1 (Text.lines (Utf8.decode content))).filter isInked,
      (1 ≤ l.1 && l.1 ≤ (Document.ofBytes path content).size) = true := by
    intro l hl
    obtain ⟨h₁, h₂⟩ := le_of_mem_numberedFrom (List.mem_filter.1 hl).1
    simp only [Bool.and_eq_true, decide_eq_true_eq]
    omega
  refine ⟨_, Marker.locate_eq hm path (by omega), ?_⟩
  rw [List.filter_eq_self.2 hrange, Declaration.scan_filter, Document.declarations, hd]

/-- **A preprocessor that changes nothing changes no declarations.**  Let no line of a source be a
line marker, and let its bytes and one more be countable, as those of a source in memory are.  Then
lines are located in the decoded source, and those that the document has declare what the lines of
the document declare.  So does every preprocessor that prints the source as it is. -/
theorem declarations_agree (path : Path) (content : List UInt8)
    (hsize : content.length + 1 < countBound)
    (hm : ∀ line ∈ Text.lines (Utf8.decode content), Marker.read? line = none) :
    let d := Document.ofBytes path content
    (∃ located, Marker.locate (Utf8.decode content) path = some located ∧
        Declaration.scan (located.filter fun l => 1 ≤ l.1 && l.1 ≤ d.size) = d.declarations) ∧
      ∀ (p : Preprocessor) (tools : Tools) (disk : Disk) (output : ToolOutput),
        (tools.run disk missingTool ⟨p.command, p.args ++ [path.text]⟩).1 = .ok output →
        output.status.isSuccess = true → output.stdout = content →
        (p.declarations tools d disk).1 = .ok d.declarations := by
  intro d
  obtain ⟨located, hlocate, hscan⟩ := exists_locate_eq_some path hsize hm
  refine ⟨⟨located, hlocate, hscan⟩, fun p tools disk output hrun hstatus hout => ?_⟩
  have hread : p.readOutput path output = .ok located := by
    rw [readOutput, if_pos hstatus, hout, hlocate]
  have hlines : (p.run tools disk d.path).1 = .ok located := by
    change Except.bind (Except.mapError Fault.failure
      (tools.run disk missingTool ⟨p.command, p.args ++ [path.text]⟩).1) (p.readOutput path) = _
    rw [hrun]
    exact hread
  simp only [declarations, hlines]
  exact congrArg Except.ok hscan

/-- Both terminators, a carriage return at the end of a line, a blank line, a directive that is
almost a marker and not UTF-8, and no terminator at the end. -/
def untidy : List UInt8 :=
  Utf8.encode "int A;\r\n\r\n# 7 ".toList ++ 0xFF ::
    Utf8.encode "\nvoid f() \x7b\r\r\nint *q;".toList

theorem declarations_agree_untidy :
    let d := Document.ofBytes ⟨"a.c"⟩ untidy
    let tools : Tools := fun disk _ => .ok (⟨.code 0, untidy, []⟩, disk)
    untidy.length + 1 < countBound ∧
      (∀ line ∈ Text.lines (Utf8.decode untidy), Marker.read? line = none) ∧
      (∀ disk, ((⟨"cat", []⟩ : Preprocessor).declarations tools d disk).1 = .ok d.declarations) ∧
      d.declarations.map (fun found => (found.line, found.topLevel)) =
        [(1, true), (4, true), (5, false)] := by
  intro d tools
  have hsize : untidy.length + 1 < countBound := by decide +kernel
  have hm : ∀ line ∈ Text.lines (Utf8.decode untidy), Marker.read? line = none := by
    have : ((Text.lines (Utf8.decode untidy)).all fun line => (Marker.read? line).isNone) := by
      decide +kernel
    simpa using this
  refine ⟨hsize, hm, fun disk => ?_, by decide +kernel⟩
  exact (declarations_agree ⟨"a.c"⟩ untidy hsize hm).2 ⟨"cat", []⟩ tools disk
    ⟨.code 0, untidy, []⟩ rfl rfl rfl

end Preprocessor

end StyleAudit
