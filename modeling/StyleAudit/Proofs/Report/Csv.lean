import StyleAudit.Proofs.Report.Field
import StyleAudit.Proofs.Text.Numeral
import StyleAudit.Report.Csv
import StyleAudit.Report.Table

/-!
# Reading comma-separated values

Messages quote source text, so that a field may hold commas, quotes and line breaks, and the end of
a line need not be the end of a record.  `Csv.read` is a reader of the format that knows nothing of
reports: a machine that takes one character after the other.  It refuses a quote inside a field that
does not start with one, anything between a closing quote and the end of the field, and a carriage
return outside quotes unless a line feed follows it.

* of a writer of fields only this much is used, that it quotes what has to be quoted
  (`Csv.Quotes`), and the writer of reports does (`Csv.quotes_field`);
* a field that such a writer writes is read back, whatever it holds (`Csv.Quotes.run_write`), and so
  are a record and a list of records (`Csv.run_record`, `Csv.read_records`);
* reports can be read back from what is written about them, but for what is not written, such as
  failures (`Report.csv_lossless`).
-/

namespace StyleAudit

namespace Csv

/-! ### The reader -/

/-- Where the reader stands in a field. -/
inductive Mode where
  /-- Before its first character. -/
  | start
  /-- In a field without quotes. -/
  | plain
  /-- Between quotes. -/
  | quoted
  /-- Behind a quote that closes the field, unless another one follows. -/
  | closed
  /-- Behind a carriage return at the end of a record. -/
  | returned

/-- What was read so far. -/
structure Reader where
  /-- Where the reader stands. -/
  mode : Mode := .start
  /-- The text of the field. -/
  text : List Char := []
  /-- The fields of the record before it. -/
  fields : List String := []
  /-- The records before this one. -/
  records : List (List String) := []

namespace Reader

/-- The record up to the end of the field. -/
def record (r : Reader) : List String := r.fields ++ [String.ofList r.text]

/-- The next field of the record begins. -/
def endField (r : Reader) : Reader := ⟨.start, [], r.record, r.records⟩

/-- The next record begins. -/
def endRecord (r : Reader) : Reader := ⟨.start, [], [], r.records ++ [r.record]⟩

/-- A character of the field. -/
def push (r : Reader) (mode : Mode) (c : Char) : Reader :=
  { r with mode := mode, text := r.text ++ [c] }

/-- A character outside quotes that ends the field; `other` is what any other one does. -/
def outside (r : Reader) (c : Char) (other : Option Reader) : Option Reader :=
  if c = ',' then some r.endField
  else if c = '\n' then some r.endRecord
  else if c = '\r' then some { r with mode := .returned }
  else other

/-- Reads one character. -/
def step (r : Reader) (c : Char) : Option Reader :=
  match r.mode with
  | .start =>
    if c = '"' then some { r with mode := .quoted } else r.outside c (some (r.push .plain c))
  | .plain => if c = '"' then none else r.outside c (some (r.push .plain c))
  | .quoted => if c = '"' then some { r with mode := .closed } else some (r.push .quoted c)
  | .closed => if c = '"' then some (r.push .quoted c) else r.outside c none
  | .returned => if c = '\n' then some r.endRecord else none

/-- Reads characters. -/
def run (r : Reader) (t : List Char) : Option Reader := t.foldlM step r

/-- The records at the end of the text.  A record without a line break behind it counts, if it has
begun. -/
def finish (r : Reader) : Option (List (List String)) :=
  match r.mode with
  | .quoted => none
  | .returned => none
  | .start => some (if r.fields.isEmpty then r.records else r.endRecord.records)
  | _ => some r.endRecord.records

end Reader

/-- The records of a text, unless it is malformed. -/
def read (s : String) : Option (List (List String)) :=
  (Reader.run {} s.toList).bind Reader.finish

/-! ### Fields -/

/-- The characters for which a field has to be quoted. -/
def Special (c : Char) : Prop := c = ',' ∨ c = '"' ∨ c = '\r' ∨ c = '\n'

/-- A text between quotes, with the quotes in it doubled. -/
def quoted (t : List Char) : List Char :=
  '"' :: t.flatMap (fun c => if c = '"' then ['"', '"'] else [c]) ++ ['"']

/-- What is relied on of a writer of fields. -/
structure Quotes (write : List Char → List Char) : Prop where
  /-- A field with a special character stands between quotes. -/
  special {t : List Char} : (∃ c ∈ t, Special c) → write t = quoted t
  /-- Any other one stands as it is, or between quotes as well. -/
  other {t : List Char} : (∀ c ∈ t, ¬Special c) → write t = t ∨ write t = quoted t

theorem isSpecial_iff {c : Char} : isSpecial c ↔ Special c := by
  simp [isSpecial, Special, or_assoc]

theorem not_special_iff {c : Char} :
    ¬Special c ↔ c ≠ ',' ∧ c ≠ '"' ∧ c ≠ '\r' ∧ c ≠ '\n' := by simp [Special]

theorem quotes_field : Quotes field where
  special {t} h := by
    have hany : t.any isSpecial := by simpa [isSpecial_iff] using h
    have hdoubled : escapeChar = fun c => if c = '"' then ['"', '"'] else [c] := by
      funext c
      simp [escapeChar]
    rw [field, if_pos hany, quoted, hdoubled]
  other {t} h := by
    have hany : ¬t.any isSpecial := by simpa [isSpecial_iff] using h
    exact .inl (if_neg hany)

namespace Reader

theorem run_cons (r : Reader) (c : Char) (t : List Char) :
    r.run (c :: t) = (r.step c).bind (·.run t) := rfl

theorem run_append (r : Reader) (s t : List Char) :
    r.run (s ++ t) = (r.run s).bind (·.run t) :=
  List.foldlM_append

end Reader

open Reader

variable {fields : List String} {records : List (List String)}

/-- Text without special characters is taken as it stands. -/
theorem run_plain {t : List Char} (h : ∀ c ∈ t, ¬Special c) (text : List Char) :
    (Reader.mk .plain text fields records).run t =
      some ⟨.plain, text ++ t, fields, records⟩ := by
  induction t generalizing text with
  | nil => rw [List.append_nil]; rfl
  | cons c t ih =>
    obtain ⟨h₁, h₂, h₃, h₄⟩ := not_special_iff.1 (h c List.mem_cons_self)
    have hstep : (Reader.mk .plain text fields records).step c =
        some ⟨.plain, text ++ [c], fields, records⟩ := by
      simp [step, outside, push, h₁, h₂, h₃, h₄]
    rw [run_cons, hstep, Option.bind_some, ih fun c hc => h c (List.mem_cons_of_mem _ hc),
      List.append_assoc, List.singleton_append]

/-- A text between quotes is read back. -/
theorem run_quoted (t : List Char) :
    (Reader.mk .start [] fields records).run (quoted t) = some ⟨.closed, t, fields, records⟩ := by
  have hinside (text : List Char) : (Reader.mk .quoted text fields records).run
      (t.flatMap fun c => if c = '"' then ['"', '"'] else [c]) =
        some ⟨.quoted, text ++ t, fields, records⟩ := by
    induction t generalizing text with
    | nil => rw [List.append_nil]; rfl
    | cons c t ih =>
      have hchar : (Reader.mk .quoted text fields records).run
          (if c = '"' then ['"', '"'] else [c]) = some ⟨.quoted, text ++ [c], fields, records⟩ := by
        by_cases hc : c = '"'
        · subst hc
          rfl
        · simp [hc, run, step, push]
      rw [List.flatMap_cons, run_append, hchar, Option.bind_some, ih, List.append_assoc,
        List.singleton_append]
  change (Reader.mk .quoted [] fields records).run (_ ++ ['"']) = _
  rw [run_append, hinside, Option.bind_some, List.nil_append]
  rfl

/-- A field that needs no quotes is read back as it stands. -/
theorem run_unquoted {t : List Char} (h : ∀ c ∈ t, ¬Special c) (fields : List String)
    (records : List (List String)) :
    ∃ mode, (mode = .start ∨ mode = .plain) ∧
      (Reader.mk .start [] fields records).run t = some ⟨mode, t, fields, records⟩ := by
  cases t with
  | nil => exact ⟨.start, .inl rfl, rfl⟩
  | cons c t =>
    refine ⟨.plain, .inr rfl, ?_⟩
    -- the first character is read as in the middle of a field, since it is no quote
    have hc := not_special_iff.1 (h c List.mem_cons_self)
    have hstep : (Reader.mk .start [] fields records).step c =
        (Reader.mk .plain [] fields records).step c := by
      simp [step, outside, push, hc]
    rw [run_cons, hstep, ← run_cons, run_plain h]
    rfl

/-- **A field is read back** from what any such writer writes, up to where it ends. -/
theorem Quotes.run_write {write : List Char → List Char} (hw : Quotes write) (t : List Char) :
    ∃ mode, (mode = .start ∨ mode = .plain ∨ mode = .closed) ∧
      (Reader.mk .start [] fields records).run (write t) = some ⟨mode, t, fields, records⟩ := by
  by_cases hs : ∃ c ∈ t, Special c
  · rw [hw.special hs]
    exact ⟨.closed, .inr (.inr rfl), run_quoted t⟩
  · push Not at hs
    obtain hplain | hquoted := hw.other hs
    · obtain ⟨mode, hmode, hrun⟩ := run_unquoted hs fields records
      rw [hplain]
      exact ⟨mode, hmode.imp_right .inl, hrun⟩
    · rw [hquoted]
      exact ⟨.closed, .inr (.inr rfl), run_quoted t⟩

/-! ### Records -/

theorem run_field_comma (f : String) (rest : List Char) :
    (Reader.mk .start [] fields records).run (field f.toList ++ ',' :: rest) =
      (Reader.mk .start [] (fields ++ [f]) records).run rest := by
  obtain ⟨mode, hmode, hrun⟩ := quotes_field.run_write f.toList
  rw [run_append, hrun, Option.bind_some, run_cons]
  rcases hmode with rfl | rfl | rfl <;>
    simp [step, outside, endField, Reader.record]

theorem run_field_lf (f : String) (rest : List Char) :
    (Reader.mk .start [] fields records).run (field f.toList ++ '\n' :: rest) =
      (Reader.mk .start [] [] (records ++ [fields ++ [f]])).run rest := by
  obtain ⟨mode, hmode, hrun⟩ := quotes_field.run_write f.toList
  rw [run_append, hrun, Option.bind_some, run_cons]
  rcases hmode with rfl | rfl | rfl <;>
    simp [step, outside, endRecord, Reader.record]

/-- A record that was written is read back, if it has a field at all. -/
theorem run_record (f : String) (more : List String) (rest : List Char) :
    (Reader.mk .start [] fields records).run (record (f :: more) ++ rest) =
      (Reader.mk .start [] [] (records ++ [fields ++ f :: more])).run rest := by
  induction more generalizing f fields with
  | nil =>
    rw [record, List.map_singleton, List.intercalate_singleton, List.append_assoc]
    exact run_field_lf f rest
  | cons g more ih =>
    have hrecord : record (f :: g :: more) = field f.toList ++ ',' :: record (g :: more) := by
      simp [record]
    rw [hrecord, List.append_assoc, List.cons_append, run_field_comma, ih, List.append_assoc,
      List.singleton_append]

/-- **Records that were written are read back**, whatever their fields hold. -/
theorem read_records {table : List (List String)} (h : ∀ fields ∈ table, fields ≠ []) :
    read (String.ofList (table.flatMap record)) = some table := by
  have hrun (table : List (List String)) (h : ∀ fields ∈ table, fields ≠ [])
      (records : List (List String)) :
      (Reader.mk .start [] [] records).run (table.flatMap record) =
        some ⟨.start, [], [], records ++ table⟩ := by
    induction table generalizing records with
    | nil => rw [List.append_nil]; rfl
    | cons fields table ih =>
      obtain ⟨f, more, rfl⟩ := List.exists_cons_of_ne_nil (h fields List.mem_cons_self)
      rw [List.flatMap_cons, run_record, ih fun fields hf => h fields (List.mem_cons_of_mem _ hf),
        List.append_assoc]
      rfl
  rw [read, String.toList_ofList, hrun table h]
  rfl

end Csv

/-! ### Reports -/

namespace Report

theorem csvRecords_eq (reports : List Report) :
    csvRecords reports = (located reports).map fun f => csvFields f.1 f.2 := by
  simp [csvRecords, located, List.map_flatMap, Function.comp_def]

theorem located_eq_nil_iff {reports : List Report} :
    located reports = [] ↔ ∀ r ∈ reports, r.diagnostics = [] := by
  simp [located, List.flatMap_eq_nil_iff]

/-- A finding can be read back from its fields. -/
theorem csvFields_injective :
    Function.Injective fun f : Located => csvFields f.1 f.2 := by
  rintro ⟨⟨path⟩, ⟨line, severity, rule, message⟩⟩ ⟨⟨path'⟩, ⟨line', severity', rule', message'⟩⟩ h
  simp only [csvFields, List.cons.injEq, and_true] at h
  obtain ⟨rfl, hline, hseverity, hrule, rfl⟩ := h
  obtain rfl := Text.toString_injective hline
  obtain rfl := Severity.name_injective hseverity
  obtain rfl := RuleId.name_injective hrule
  rfl

theorem csv_of_nil {reports : List Report} (h : located reports = []) : csv reports = "" := by
  rw [csv, csvRecords_eq, h]
  rfl

theorem read_csv {reports : List Report} (h : located reports ≠ []) :
    Csv.read (csv reports) =
      some (Csv.header :: (located reports).map fun f => csvFields f.1 f.2) := by
  obtain ⟨f, more, hf⟩ := List.exists_cons_of_ne_nil h
  rw [csv, csvRecords_eq, hf]
  refine Csv.read_records fun fields hfields => ?_
  rcases List.mem_cons.1 hfields with rfl | hfields
  · exact List.cons_ne_nil _ _
  · obtain ⟨f, -, rfl⟩ := List.mem_map.1 hfields
    exact List.cons_ne_nil _ _

/-- **Comma-separated values lose no finding.**  Without findings the text is empty.  Otherwise a
reader of the format gets the header and then one record for each finding, in the order of the
reports and of the findings in each: the path, the line, the severity, the rule and the message as
it is, with all its quotes, commas and line breaks.  So the text determines the findings and where
they are. -/
theorem csv_lossless (reports : List Report) :
    (csv reports = "" ↔ ∀ r ∈ reports, r.diagnostics = []) ∧
      ((∃ r ∈ reports, r.diagnostics ≠ []) →
        Csv.read (csv reports) =
          some (["file", "line", "severity", "rule", "message"] ::
            reports.flatMap fun r => r.diagnostics.map fun f =>
              [r.path.text, toString f.line, f.severity.name, f.rule.name, f.message])) ∧
      ∀ reports' : List Report, csv reports' = csv reports →
        (reports'.flatMap fun r => r.diagnostics.map fun f => (r.path, f)) =
          reports.flatMap fun r => r.diagnostics.map fun f => (r.path, f) := by
  have hempty (reports : List Report) : csv reports = "" ↔ located reports = [] := by
    refine ⟨fun he => ?_, csv_of_nil⟩
    by_contra hne
    -- the reader finds no record in the empty text, and the header otherwise
    have hread := read_csv hne
    rw [he] at hread
    exact List.cons_ne_nil _ _ (Option.some.inj hread).symm
  refine ⟨(hempty reports).trans located_eq_nil_iff, fun ⟨r, hr, hne⟩ => ?_, fun reports' he => ?_⟩
  · have hread := read_csv fun hnil => hne (located_eq_nil_iff.1 hnil r hr)
    rwa [← csvRecords_eq] at hread
  by_cases hnil : located reports = []
  · have hnil' : located reports' = [] := (hempty _).1 (he.trans ((hempty _).2 hnil))
    exact hnil'.trans hnil.symm
  · have hnil' : located reports' ≠ [] := fun h => hnil ((hempty _).1 (he ▸ (hempty _).2 h))
    have hread := read_csv hnil'
    rw [he, read_csv hnil, Option.some_inj, List.cons.injEq] at hread
    exact csvFields_injective.list_map hread.2.symm

/-- A finding whose path and message have to be quoted, and a report without findings. -/
def quoting : List Report :=
  [(start ⟨"a,b.c"⟩).record .repetition [.of .repetition 2 "x,\n\"y\"\r\n"],
    (start ⟨"c.c"⟩).record .totalLines []]

theorem csv_lossless_quoting :
    csv quoting ≠ "" ∧ (∃ r ∈ quoting, r.diagnostics ≠ []) ∧
      Csv.read (csv quoting) =
        some [["file", "line", "severity", "rule", "message"],
          ["a,b.c", "2", "warning", "modularization_repetition", "x,\n\"y\"\r\n"]] := by
  obtain ⟨hempty, hread, -⟩ := csv_lossless quoting
  have hne : ∃ r ∈ quoting, r.diagnostics ≠ [] := ⟨_, List.mem_cons_self, by decide⟩
  refine ⟨fun h => ?_, hne, (hread hne).trans (by decide +kernel)⟩
  obtain ⟨r, hr, hfound⟩ := hne
  exact hfound (hempty.1 h r hr)

end Report

end StyleAudit
