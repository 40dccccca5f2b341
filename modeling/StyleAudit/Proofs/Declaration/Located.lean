import Mathlib.Data.List.Infix
import StyleAudit.Proofs.Declaration.Marker
import StyleAudit.Proofs.Rule.Anchor

/-!
# Where markers place lines

The output of a preprocessor mixes the lines of several files, and markers tell them apart.  Which
lines belong to a source, and which numbers they have there, can be told from the lines above each
of them (`Marker.Place`).  The nearest marker above names the file.  The nearest marker with a
number gives the number, and every line since then that is no marker adds one; the two need not be
the same marker.

* `Marker.locate_exact` : the lines that are located are these, with these numbers, as long as the
  numbers of markers and the lines of the output are small enough to count on;
* `Preprocessor.declarations_placed` : in general either the count overflows behind one of the
  lines, or they are located and declarations are reported where the markers place them;
* `Preprocessor.declarations_overflow` : the count may overflow behind lines that are past the end
  of the document, and so would be dropped.
-/

namespace StyleAudit

namespace Marker

open Text

/-! ### Lines above -/

/-- A line of an output, with the lines above it. -/
structure Place where
  /-- The lines above, the nearest last. -/
  above : List (List Char)
  /-- The line. -/
  line : List Char

/-- The lines of an output, each with those above it. -/
def places (ls : List (List Char)) : List Place := List.zipWith Place.mk ls.inits ls

/-- The number of a line, if it is a marker and its number is a count. -/
def numberOf? (line : List Char) : Option Nat := (read? line).bind fun m => number? m.digits

/-- The nearest marker above. -/
def nearest? (above : List (List Char)) : Option Marker := above.reverse.findSome? read?

/-- The number of the nearest marker above that has one, and 1 if there is none. -/
def base (above : List (List Char)) : Nat := (above.reverse.findSome? numberOf?).getD 1

/-- How many lines since then are no markers. -/
def counted (above : List (List Char)) : Nat :=
  (above.reverse.takeWhile fun line => (numberOf? line).isNone).countP fun line =>
    (read? line).isNone

/-- The lines above leave off in the source: the nearest marker names it, or there is none. -/
def endsIn (source : Path) (above : List (List Char)) : Bool :=
  (nearest? above).all (·.names source)

/-- The line belongs to the source: it is no marker and not blank, and the lines above leave off in
the source. -/
def Place.isOwn (source : Path) (p : Place) : Bool :=
  (read? p.line).isNone && endsIn source p.above && !(trim p.line).isEmpty

/-- The lines that belong to the source. -/
def ownPlaces (source : Path) (ls : List (List Char)) : List Place :=
  (places ls).filter (·.isOwn source)

/-- The place with more lines above. -/
def Place.below (first : List (List Char)) (p : Place) : Place := ⟨first ++ p.above, p.line⟩

theorem places_cons (line : List Char) (ls : List (List Char)) :
    places (line :: ls) = ⟨[], line⟩ :: (places ls).map (Place.below [line]) := by
  rw [places, List.inits_cons, List.zipWith_cons_cons, List.zipWith_map_left, places,
    List.map_zipWith]
  rfl

theorem map_below_places_cons (first : List (List Char)) (line : List Char)
    (ls : List (List Char)) :
    (places (line :: ls)).map (Place.below first) =
      ⟨first, line⟩ :: (places ls).map (Place.below (first ++ [line])) := by
  rw [places_cons, List.map_cons, List.map_map]
  congr 1
  · simp [Place.below]
  · exact List.map_congr_left fun p _ => by simp [Place.below]

/-- The lines of an output are its places, and what stands above one of them stands above it in
the output. -/
theorem mem_places_iff {p : Place} {ls : List (List Char)} :
    p ∈ places ls ↔ ∃ below, ls = p.above ++ p.line :: below := by
  induction ls generalizing p with
  | nil => simp [places]
  | cons line ls ih =>
    obtain ⟨above, l⟩ := p
    rw [places_cons, List.mem_cons, List.mem_map]
    constructor
    · rintro (h | ⟨q, hq, h⟩)
      · cases h
        exact ⟨ls, rfl⟩
      · cases h
        obtain ⟨below, rfl⟩ := ih.1 hq
        exact ⟨below, rfl⟩
    · rintro ⟨below, h⟩
      cases above with
      | nil =>
        obtain ⟨rfl, rfl⟩ := List.cons.inj h
        exact .inl rfl
      | cons first above =>
        obtain ⟨rfl, h⟩ := List.cons.inj h
        exact .inr ⟨⟨above, l⟩, ih.2 ⟨below, h⟩, rfl⟩

/-! ### Counting -/

theorem numberOf?_of_none {line : List Char} (h : read? line = none) : numberOf? line = none := by
  rw [numberOf?, h]
  rfl

theorem numberOf?_of_some {line : List Char} {m : Marker} (h : read? line = some m) :
    numberOf? line = number? m.digits := by
  rw [numberOf?, h]
  rfl

theorem nearest?_concat (above : List (List Char)) (line : List Char) :
    nearest? (above ++ [line]) = (read? line).or (nearest? above) := by
  rw [nearest?, List.reverse_append, List.findSome?_append, List.reverse_singleton,
    List.findSome?_singleton]
  rfl

section Concat

variable {line : List Char} {m : Marker} (above : List (List Char))

/-- The file of a marker counts from there on. -/
theorem endsIn_concat_of_some (source : Path) (h : read? line = some m) :
    endsIn source (above ++ [line]) = m.names source := by
  rw [endsIn, nearest?_concat, h]
  rfl

theorem endsIn_concat_of_none (source : Path) (h : read? line = none) :
    endsIn source (above ++ [line]) = endsIn source above := by
  rw [endsIn, nearest?_concat, h]
  rfl

/-- A number starts the count anew, and a marker without one leaves it as it is. -/
theorem base_add_counted_concat_of_some (h : read? line = some m) :
    base (above ++ [line]) + counted (above ++ [line]) =
      (number? m.digits).getD (base above + counted above) := by
  have hn := numberOf?_of_some h
  cases hd : number? m.digits with
  | none => simp [base, counted, h, hn, hd]
  | some n => simp [base, counted, hn, hd]

/-- A line that is no marker adds one. -/
theorem base_add_counted_concat_of_none (h : read? line = none) :
    base (above ++ [line]) + counted (above ++ [line]) = base above + counted above + 1 := by
  have hn := numberOf?_of_none h
  simp [base, counted, h, hn, Nat.add_assoc]

end Concat

/-- The number of the nearest marker stands on a line above, or is 1. -/
theorem base_eq_one_or (above : List (List Char)) :
    base above = 1 ∨ ∃ line ∈ above, numberOf? line = some (base above) := by
  rw [base]
  cases h : above.reverse.findSome? numberOf? with
  | none => exact .inl rfl
  | some n =>
    obtain ⟨line, hline, hn⟩ := List.exists_of_findSome?_eq_some h
    exact .inr ⟨line, List.mem_reverse.1 hline, hn⟩

theorem counted_le (above : List (List Char)) : counted above ≤ above.length :=
  calc counted above
    _ ≤ (above.reverse.takeWhile fun line => (numberOf? line).isNone).length :=
      List.countP_le_length
    _ ≤ above.reverse.length := (List.takeWhile_prefix _).length_le
    _ = above.length := List.length_reverse

/-! ### Locating -/

/-- The count overflows behind the line: it is no marker, and the next number is no count. -/
def Place.Overflows (p : Place) : Prop :=
  read? p.line = none ∧ countBound ≤ base p.above + counted p.above + 1

/-- The number and the file that are carried along are those of the lines above, as long as the
count does not overflow. -/
theorem locateFrom_above (source : Path) (above ls : List (List Char)) :
    (locateFrom source (base above + counted above) (endsIn source above) ls = none ↔
        ∃ p ∈ (places ls).map (Place.below above), p.Overflows) ∧
      ∀ located, locateFrom source (base above + counted above) (endsIn source above) ls =
          some located →
        located = (((places ls).map (Place.below above)).filter (·.isOwn source)).map fun p =>
          (base p.above + counted p.above, p.line) := by
  induction ls generalizing above with
  | nil => simp [locateFrom, places]
  | cons line ls ih =>
    obtain ⟨hnone, hsome⟩ := ih (above ++ [line])
    rw [locateFrom, map_below_places_cons, List.filter_cons, List.exists_mem_cons_iff]
    cases h : read? line with
    | some m =>
      have hown : Place.isOwn source ⟨above, line⟩ = false := by simp [Place.isOwn, h]
      have hfits : ¬ Place.Overflows ⟨above, line⟩ := fun ho => by simp [Place.Overflows, h] at ho
      rw [base_add_counted_concat_of_some above h, endsIn_concat_of_some above source h]
        at hnone hsome
      rw [hown, if_neg Bool.false_ne_true, or_iff_right hfits]
      exact ⟨hnone, hsome⟩
    | none =>
      have hown : Place.isOwn source ⟨above, line⟩ =
          (endsIn source above && !(trim line).isEmpty) := by simp [Place.isOwn, h]
      have hoverflows : Place.Overflows ⟨above, line⟩ ↔
          ¬ base above + counted above + 1 < countBound := by simp [Place.Overflows, h]
      rw [base_add_counted_concat_of_none above h, endsIn_concat_of_none above source h]
        at hnone hsome
      rw [hown, hoverflows]
      by_cases hfits : base above + counted above + 1 < countBound
      · simp only [hfits, if_true, Option.map_eq_none_iff, not_true, false_or]
        refine ⟨hnone, fun located hl => ?_⟩
        obtain ⟨later, hlater, rfl⟩ := Option.map_eq_some_iff.1 hl
        rw [hsome later hlater]
        split_ifs <;> rfl
      · simp [hfits]

section Locate

variable (output : List Char) (source : Path)

/-- Lines are located unless the count overflows behind one of them. -/
theorem locate_eq_none_iff :
    locate output source = none ↔ ∃ p ∈ places (lines output), p.Overflows := by
  have hbelow : (places (lines output)).map (Place.below []) = places (lines output) :=
    List.map_id' _
  have h := (locateFrom_above source [] (lines output)).1
  rwa [hbelow] at h

variable {output source}

/-- The lines that are located are those of the source, with their numbers. -/
theorem eq_map_of_locate {located : List (Nat × List Char)}
    (h : locate output source = some located) :
    located = (ownPlaces source (lines output)).map fun p =>
      (base p.above + counted p.above, p.line) := by
  have hbelow : (places (lines output)).map (Place.below []) = places (lines output) :=
    List.map_id' _
  have hlocated := (locateFrom_above source [] (lines output)).2 located h
  rwa [hbelow] at hlocated

end Locate

/-- Numbers that are small enough to count on do not overflow. -/
theorem not_overflows_of_mem_places {ls : List (List Char)} (hsize : ls.length + 1 < countBound)
    (hnumber : ∀ line ∈ ls, ∀ n ∈ numberOf? line, n + ls.length < countBound) {p : Place}
    (hp : p ∈ places ls) : ¬ p.Overflows := by
  rintro ⟨-, hge⟩
  obtain ⟨below, rfl⟩ := mem_places_iff.1 hp
  have hcounted := counted_le p.above
  simp only [List.length_append, List.length_cons] at hsize hnumber
  rcases base_eq_one_or p.above with h | ⟨line, hline, h⟩
  · omega
  · have := hnumber line (List.mem_append_left _ hline) _ h
    omega

/-- **The lines of a source are found in the output of a preprocessor, and so are their numbers.** A
line is a marker iff it is written as one, and a marker has a number iff it has ASCII digits for a
count.  The lines that belong to the source are located, in order: those that are neither markers
nor blank, and above which the nearest marker names the source or there is none.  A line has the
number of the nearest marker with a number, or 1, and one more for every line between them that is
no marker.  It is enough that the lines of the output and the next one can be counted, and that
every number of a marker leaves room for them. -/
theorem locate_exact (output : List Char) (source : Path)
    (hsize : (lines output).length + 1 < countBound)
    (hnumber : ∀ line ∈ lines output, ∀ n ∈ numberOf? line,
      n + (lines output).length < countBound) :
    (∀ line m, read? line = some m ↔ m.Written line) ∧
      (∀ digits n, number? digits = some n ↔ digits ≠ [] ∧ (∀ c ∈ digits, c.isDigit) ∧
        Nat.ofDigitChars 10 digits 0 = n ∧ n < countBound) ∧
      locate output source = some ((ownPlaces source (lines output)).map fun p =>
        (base p.above + counted p.above, p.line)) := by
  refine ⟨fun _ _ => read?_eq_some_iff, fun _ _ => number?_eq_some_iff, ?_⟩
  obtain ⟨located, h⟩ : ∃ located, locate output source = some located := by
    refine Option.ne_none_iff_exists'.1 fun hnone => ?_
    obtain ⟨p, hp, hoverflows⟩ := (locate_eq_none_iff output source).1 hnone
    exact not_overflows_of_mem_places hsize hnumber hp hoverflows
  rw [h, eq_map_of_locate h]

/-- A line before all markers, a header that goes on with the count, a marker with a digit that is
no ASCII digit and with another path of the same components, and blank lines that count. -/
theorem locate_exact_interleaved :
    let output := ("int A;\n# 4 \"h.h\" 1 3\nint H;\n\n#line ٣ \"b//a.c\"\nint B;\n" ++
      "#7\t\"b/a.c\" 2\n\n#pragma once\n# 7 b\n").toList
    (lines output).length + 1 < countBound ∧
      (∀ line ∈ lines output, ∀ n ∈ numberOf? line, n + (lines output).length < countBound) ∧
      locate output ⟨"b/a.c"⟩ =
        some [(1, "int A;".toList), (6, "int B;".toList), (8, "#pragma once".toList),
          (9, "# 7 b".toList)] := by
  intro output
  have hsize : (lines output).length + 1 < countBound := by decide +kernel
  have hnumber : ∀ line ∈ lines output, ∀ n ∈ numberOf? line,
      n + (lines output).length < countBound := by decide +kernel
  refine ⟨hsize, hnumber, ?_⟩
  rw [(locate_exact output ⟨"b/a.c"⟩ hsize hnumber).2.2]
  decide +kernel

end Marker

namespace Preprocessor

section Run

variable {p : Preprocessor} {tools : Tools} {disk : Disk} {source : Path} {output : ToolOutput}
  (hrun : (tools.run disk missingTool ⟨p.command, p.args ++ [source.text]⟩).1 = .ok output)
  (hstatus : output.status.isSuccess = true)
include hrun hstatus

/-- A preprocessor that succeeds gives the lines that are located in its output. -/
theorem fst_run :
    (p.run tools disk source).1 =
      match Marker.locate (Utf8.decode output.stdout) source with
      | some lines => .ok lines
      | none => .error .overflow := by
  rw [run]
  rcases h : tools.run disk missingTool ⟨p.command, p.args ++ [source.text]⟩ with ⟨result, disk'⟩
  rw [h] at hrun
  obtain rfl : result = .ok output := hrun
  exact if_pos hstatus

theorem run_eq_overflow_iff :
    (p.run tools disk source).1 = .error .overflow ↔
      ∃ l ∈ Marker.places (Text.lines (Utf8.decode output.stdout)), l.Overflows := by
  rw [fst_run hrun hstatus, ← Marker.locate_eq_none_iff _ source]
  cases Marker.locate (Utf8.decode output.stdout) source <;> simp

/-- If nothing overflows, these are the lines that belong to the source. -/
theorem run_eq_ok (hfits : (p.run tools disk source).1 ≠ .error .overflow) :
    (p.run tools disk source).1 =
      .ok ((Marker.ownPlaces source (Text.lines (Utf8.decode output.stdout))).map fun l =>
        (Marker.base l.above + Marker.counted l.above, l.line)) := by
  rw [fst_run hrun hstatus] at hfits ⊢
  cases h : Marker.locate (Utf8.decode output.stdout) source with
  | none => simp [h] at hfits
  | some located => rw [Marker.eq_map_of_locate h]

end Run

theorem fst_declarations (p : Preprocessor) (tools : Tools) (d : Document) (disk : Disk) :
    (p.declarations tools d disk).1 = (p.run tools disk d.path).1.map fun lines =>
      Declaration.scan (lines.filter fun l => 1 ≤ l.1 && l.1 ≤ d.size) :=
  rfl

/-- **A declaration is reported where the markers place it, if the count does not overflow.**  Let a
preprocessor succeed.  The run overflows iff its output has a line that is no marker and whose
successor would get a number beyond the greatest count.  Otherwise the lines of the source are those
that belong to it, with their numbers; whatever is declared stands on such a line, within the
document and not before the number of its marker. -/
theorem declarations_placed (p : Preprocessor) (tools : Tools) (disk : Disk) (d : Document)
    (output : ToolOutput)
    (hrun : (tools.run disk missingTool ⟨p.command, p.args ++ [d.path.text]⟩).1 = .ok output)
    (hstatus : output.status.isSuccess = true) :
    let ls := Text.lines (Utf8.decode output.stdout)
    let number (l : Marker.Place) := Marker.base l.above + Marker.counted l.above
    let overflows := ∃ l ∈ Marker.places ls, Marker.read? l.line = none ∧ 2 ^ 64 ≤ number l + 1
    ((p.run tools disk d.path).1 = .error .overflow ↔ overflows) ∧
      ((p.declarations tools d disk).1 = .error .overflow ↔ overflows) ∧
      (¬ overflows →
        (p.run tools disk d.path).1 =
            .ok ((Marker.ownPlaces d.path ls).map fun l => (number l, l.line)) ∧
          ∃ declared, (p.declarations tools d disk).1 = .ok declared ∧
            ∀ x ∈ declared, ∃ l ∈ Marker.ownPlaces d.path ls,
              x.line = number l ∧ Marker.base l.above ≤ x.line ∧ d.HasLine x.line ∧
                Declaration.classify (Text.trim l.line) = some (x.kind, x.name)) := by
  intro ls number overflows
  have hoverflow : (p.run tools disk d.path).1 = .error .overflow ↔ overflows :=
    run_eq_overflow_iff hrun hstatus
  refine ⟨hoverflow, ?_, fun hfits => ?_⟩
  · rw [← hoverflow, fst_declarations]
    cases (p.run tools disk d.path).1 <;> simp [Except.map]
  · have hlines : (p.run tools disk d.path).1 =
        .ok ((Marker.ownPlaces d.path ls).map fun l => (number l, l.line)) :=
      run_eq_ok hrun hstatus (mt hoverflow.1 hfits)
    refine ⟨hlines, _, by rw [fst_declarations, hlines]; rfl, fun x hx => ?_⟩
    obtain ⟨l', hl', he, hc⟩ := Declaration.exists_of_mem_scanFrom hx
    obtain ⟨hmem, hrange⟩ := List.mem_filter.1 hl'
    obtain ⟨l, hl, rfl⟩ := List.mem_map.1 hmem
    refine ⟨l, hl, he, ?_, ?_, hc⟩
    · rw [he]
      exact Nat.le_add_right _ _
    · rw [he]
      simpa [Document.HasLine] using hrange

/-- An output with a header, with a line of the source behind it, and with one behind the end of the
document. -/
theorem declarations_placed_header :
    let d := Document.ofBytes ⟨"a.c"⟩ (Utf8.encode "#include \"h.h\"\nint b;\n".toList)
    let output : ToolOutput := ⟨.code 0, Utf8.encode ("# 1 \"a.c\"\n# 1 \"h.h\"\nint h;\n" ++
      "# 2 \"a.c\"\nint b;\nint c;\n").toList, []⟩
    let tools : Tools := fun disk _ => .ok (output, disk)
    let ls := Text.lines (Utf8.decode output.stdout)
    (tools.run .empty missingTool ⟨"cpp", ["a.c"]⟩).1 = .ok output ∧
      output.status.isSuccess = true ∧
      ((⟨"cpp", []⟩ : Preprocessor).run tools .empty d.path).1 =
        .ok [(2, "int b;".toList), (3, "int c;".toList)] ∧
      ∃ declared, ((⟨"cpp", []⟩ : Preprocessor).declarations tools d .empty).1 = .ok declared ∧
        declared.length = 1 ∧
        ∀ x ∈ declared, ∃ l ∈ Marker.ownPlaces d.path ls,
          x.line = Marker.base l.above + Marker.counted l.above ∧ d.HasLine x.line := by
  intro d output tools ls
  have hrun : (tools.run .empty missingTool ⟨"cpp", ["a.c"]⟩).1 = .ok output := rfl
  have hfits : ¬ ∃ l ∈ Marker.places ls,
      Marker.read? l.line = none ∧ 2 ^ 64 ≤ Marker.base l.above + Marker.counted l.above + 1 := by
    decide +kernel
  obtain ⟨hlines, declared, hok, hplaced⟩ :=
    (declarations_placed ⟨"cpp", []⟩ tools .empty d output hrun rfl).2.2 hfits
  have hlen : ((⟨"cpp", []⟩ : Preprocessor).declarations tools d .empty).1.toOption.map
      (·.length) = some 1 := by
    decide +kernel
  rw [hok] at hlen
  refine ⟨hrun, rfl, ?_, declared, hok, Option.some.inj hlen, fun x hx => ?_⟩
  · rw [hlines]
    exact congrArg Except.ok (by decide +kernel)
  · obtain ⟨l, hl, hline, -, hhas, -⟩ := hplaced x hx
    exact ⟨l, hl, hline, hhas⟩

/-- **The count overflows.**  The greatest count in a marker, and a preprocessor that prints the
source as it is: every line of the source is placed behind the end of the document, so that nothing
is declared within it.  Still there is no answer, since the count does not get beyond the first of
these lines. -/
theorem declarations_overflow :
    let bytes := Utf8.encode
      "#line 18446744073709551615 \"a.c\"\nint A;\nint B;\nint count;\n".toList
    let d := Document.ofBytes ⟨"a.c"⟩ bytes
    let tools : Tools := fun disk _ => .ok (⟨.code 0, bytes, []⟩, disk)
    (∀ l ∈ Marker.ownPlaces d.path (Text.lines (Utf8.decode bytes)),
        Marker.base l.above = 18446744073709551615 ∧ d.size < Marker.base l.above) ∧
      ((⟨"cat", []⟩ : Preprocessor).run tools .empty d.path).1 = .error .overflow ∧
      ((⟨"cat", []⟩ : Preprocessor).declarations tools d .empty).1 = .error .overflow := by
  intro bytes d tools
  have hrun : (tools.run .empty missingTool ⟨"cat", ["a.c"]⟩).1 = .ok ⟨.code 0, bytes, []⟩ := rfl
  have hoverflows : ∃ l ∈ Marker.places (Text.lines (Utf8.decode bytes)),
      Marker.read? l.line = none ∧ 2 ^ 64 ≤ Marker.base l.above + Marker.counted l.above + 1 := by
    decide +kernel
  have hlines : ((⟨"cat", []⟩ : Preprocessor).run tools .empty d.path).1 = .error .overflow :=
    (run_eq_overflow_iff hrun rfl).2 hoverflows
  refine ⟨by decide +kernel, hlines, ?_⟩
  rw [fst_declarations, hlines]
  rfl

end Preprocessor

end StyleAudit
