import StyleAudit.Proofs.Source.Cut
import StyleAudit.Proofs.Text.Ascii
import StyleAudit.Rule.Consistency

/-!
# Documents and their bytes

A document is cut into lines first, and each line is decoded by itself.  Since terminators are
ASCII, this is the same as decoding the source as a whole:

* `Document.ofBytes_decodes` : the lines with their terminators make up the decoded source, and
  the source is UTF-8 iff every line is;
* `Document.ofBytes_canonical` : documents that are loaded are in canonical form, and every
  document in canonical form is loaded back from its bytes.
-/

namespace StyleAudit

open Utf8

/-! ### Terminators -/

/-- A terminator may be read by itself. -/
theorem Ending.items_append {ending : Ending} (h : ending ≠ .none) (bytes more : List UInt8) :
    items (bytes ++ ending.bytes ++ more) = items bytes ++ items ending.bytes ++ items more := by
  cases ending with
  | none => exact absurd rfl h
  | lf =>
    change items (bytes ++ [0x0A] ++ more) = items bytes ++ [some '\n'] ++ items more
    rw [List.append_assoc, List.append_assoc]
    exact items_append_ascii (by decide) bytes more
  | crlf =>
    change items (bytes ++ [0x0D, 0x0A] ++ more) =
      items bytes ++ [some '\r', some '\n'] ++ items more
    rw [List.append_assoc, List.append_assoc]
    exact items_append_ascii (by decide) bytes (0x0A :: more)

theorem Ending.encode_decode_append {ending : Ending} (h : ending ≠ .none)
    (bytes more : List UInt8) :
    encode (decode (bytes ++ ending.bytes ++ more)) =
      encode (decode bytes) ++ ending.bytes ++ encode (decode more) := by
  have he : encode (decode ending.bytes) = ending.bytes := by
    cases ending <;> decide
  simp only [decode, items_append h, List.map_append, encode_append]
  exact congrArg (encode (decode bytes) ++ · ++ encode (decode more)) he

theorem Ending.isValid_append {ending : Ending} (h : ending ≠ .none) (bytes more : List UInt8) :
    isValid (bytes ++ ending.bytes ++ more) = (isValid bytes && isValid more) := by
  have he : isValid ending.bytes := by
    cases ending <;> decide
  simp only [isValid, items_append h, List.all_append] at he ⊢
  rw [he, Bool.and_true]

/-! ### Lines -/

namespace RawLine

/-- Decoding lines one by one is decoding them together. -/
theorem encode_decode_render {raws : List RawLine} (h : Canonical raws) :
    encode (decode (raws.flatMap render)) =
      raws.flatMap fun raw => encode (decode raw.bytes) ++ raw.ending.bytes := by
  induction raws with
  | nil => rfl
  | cons raw raws ih =>
    rw [List.flatMap_cons, List.flatMap_cons, ← ih (Cut.tail h), render]
    by_cases he : raw.ending = .none
    · -- nothing follows a line without terminator, so there is nothing to run together
      obtain rfl : raws = [] := List.map_eq_nil_iff.1 ((Cut.head h).2.2 he).2
      simp [he, Ending.bytes, decode, items, itemsFrom, encode]
    · exact Ending.encode_decode_append he _ _

theorem isValid_render {raws : List RawLine} (h : Canonical raws) :
    isValid (raws.flatMap render) = raws.all fun raw => isValid raw.bytes := by
  induction raws with
  | nil => rfl
  | cons raw raws ih =>
    rw [List.flatMap_cons, List.all_cons, ← ih (Cut.tail h), render]
    by_cases he : raw.ending = .none
    · obtain rfl : raws = [] := List.map_eq_nil_iff.1 ((Cut.head h).2.2 he).2
      simp [he, Ending.bytes, isValid, items, itemsFrom]
    · exact Ending.isValid_append he _ _

end RawLine

/-! ### Numbered lines -/

namespace Document

theorem number_eq_mapIdx (first : Nat) (raws : List RawLine) :
    number first raws = raws.mapIdx fun i raw => Line.ofRaw (first + i) raw := by
  induction raws generalizing first with
  | nil => rfl
  | cons raw raws ih =>
    rw [number, ih, List.mapIdx_cons]
    simp only [Nat.add_assoc, Nat.add_comm 1, Nat.add_zero]

/-- Numbers aside, lines are decoded one by one. -/
theorem map_number {α : Type} (f : Line → α) (g : RawLine → α)
    (hf : ∀ n raw, f (Line.ofRaw n raw) = g raw) (first : Nat) (raws : List RawLine) :
    (number first raws).map f = raws.map g := by
  induction raws generalizing first with
  | nil => rfl
  | cons raw raws ih => rw [number, List.map_cons, List.map_cons, hf, ih]

theorem size_ofBytes_le (path : Path) (bytes : List UInt8) :
    (ofBytes path bytes).size ≤ bytes.length := by
  change (number 1 (RawLine.split bytes)).length ≤ bytes.length
  rw [number_eq_mapIdx, List.length_mapIdx]
  exact RawLine.length_split_le bytes

theorem render_ofBytes (path : Path) (bytes : List UInt8) :
    (ofBytes path bytes).render = encode (decode bytes) := by
  have h := RawLine.encode_decode_render (RawLine.canonical_split bytes)
  rw [RawLine.render_split, List.flatMap_def, ← map_number Line.render _ (fun _ _ => rfl) 1] at h
  exact h.symm

theorem isValid_iff_all_isUtf8 (path : Path) (bytes : List UInt8) :
    isValid bytes ↔ ∀ l ∈ (ofBytes path bytes).lines, l.isUtf8 := by
  have h := RawLine.isValid_render (RawLine.canonical_split bytes)
  have hm := map_number (·.isUtf8) (fun raw => isValid raw.bytes) (fun _ _ => rfl) 1
    (RawLine.split bytes)
  have hall := congrArg (List.all · id) hm
  rw [List.all_map, List.all_map] at hall
  rw [RawLine.render_split] at h
  rw [h, ← List.all_eq_true]
  exact Bool.eq_iff_iff.1 hall.symm

theorem isValid_iff_render_eq (path : Path) (bytes : List UInt8) :
    isValid bytes ↔ (ofBytes path bytes).render = bytes := by
  rw [render_ofBytes, isValid_iff]
  exact ⟨fun ⟨t, ht⟩ => encode_decode (ht ▸ isValid_encode t), fun h => ⟨_, h⟩⟩

theorem encoding_eq_nil_iff (d : Document) :
    Rule.encoding d = [] ↔ ∀ l ∈ d.lines, l.isUtf8 := by
  simp [Rule.encoding, List.filter_eq_nil_iff]

/-- **A document holds its source, decoded.**  The lines are at most as many as the bytes.  With
their terminators they make up the source as a whole, decoded and encoded again, which is the
source itself iff it is UTF-8.  It is so iff every line is, and then there is no finding. -/
theorem ofBytes_decodes (path : Path) (bytes : List UInt8) :
    (ofBytes path bytes).size ≤ bytes.length ∧
      (ofBytes path bytes).render = encode (decode bytes) ∧
      (isValid bytes ↔ (ofBytes path bytes).render = bytes) ∧
      (isValid bytes ↔ ∃ t : List Char, t.flatMap String.utf8EncodeChar = bytes) ∧
      (isValid bytes ↔ ∀ l ∈ (ofBytes path bytes).lines, l.isUtf8) ∧
      (isValid bytes ↔ Rule.encoding (ofBytes path bytes) = []) := by
  refine ⟨size_ofBytes_le path bytes, render_ofBytes path bytes, isValid_iff_render_eq path bytes,
    ?_, isValid_iff_all_isUtf8 path bytes, ?_⟩
  · simp only [isValid_iff, encode_eq]
  · rw [encoding_eq_nil_iff]
    exact isValid_iff_all_isUtf8 path bytes

end Document

/-! ### Canonical form -/

namespace Line

/-- Lines as a document has them: numbered from 1, and cut at line feeds. -/
structure Canonical (lines : List Line) : Prop where
  /-- Lines are numbered from 1. -/
  number : ∀ i l, lines[i]? = some l → l.number = i + 1
  /-- Texts and terminators are as a cut at line feeds leaves them. -/
  cut : Cut '\n' '\r' (lines.map fun l => (l.text, l.ending))

/-- The line as it stands in the source, if its bytes are UTF-8. -/
def raw (l : Line) : RawLine := ⟨encode l.text, l.ending⟩

theorem Canonical.raw {lines : List Line} (h : Canonical lines) :
    RawLine.Canonical (lines.map Line.raw) := by
  have hlf (t : List Char) (ht : (0x0A : UInt8) ∈ encode t) : '\n' ∈ t :=
    mem_of_mem_encode (by decide) ht
  have hcr (t : List Char) (ht : (encode t).getLast? = some (0x0D : UInt8)) :
      t.getLast? = some '\r' :=
    getLast?_of_getLast?_encode (by decide) ht
  have := h.cut.map encode hlf hcr fun t => encode_eq_nil.1
  rw [List.map_map] at this
  rw [RawLine.Canonical, List.map_map]
  exact this

end Line

/-- Decoding makes up no line feed, and no carriage return at the end of a line. -/
theorem RawLine.Canonical.decode {raws : List RawLine} (h : Canonical raws) :
    Cut '\n' '\r' (raws.map fun raw => (Utf8.decode raw.bytes, raw.ending)) := by
  have hlf (bytes : List UInt8) (hb : '\n' ∈ Utf8.decode bytes) : 0x0A ∈ bytes :=
    mem_of_mem_decode (by decide) (by decide) hb
  have hcr (bytes : List UInt8) (hb : (Utf8.decode bytes).getLast? = some '\r') :
      bytes.getLast? = some 0x0D :=
    getLast?_of_getLast?_decode (by decide) (by decide) hb
  have := Cut.map Utf8.decode hlf hcr (fun bytes => decode_eq_nil.1) h
  rwa [List.map_map] at this

namespace Document

/-- Canonical lines are numbered and decoded as they are. -/
theorem number_raw {lines : List Line} {first : Nat}
    (hn : ∀ i l, lines[i]? = some l → l.number = first + i) (hu : ∀ l ∈ lines, l.isUtf8) :
    number first (lines.map Line.raw) = lines := by
  induction lines generalizing first with
  | nil => rfl
  | cons l lines ih =>
    have hl : Line.ofRaw first l.raw = l := by
      obtain ⟨n, text, ending, valid⟩ := l
      have h₁ : n = first := hn 0 _ rfl
      have h₂ : valid = true := hu _ List.mem_cons_self
      subst h₁ h₂
      simp [Line.ofRaw, Line.raw, decode_encode, isValid_encode]
    rw [List.map_cons, number, hl,
      ih (fun i l' h => ?_) fun l' h => hu l' (List.mem_cons_of_mem _ h)]
    have := hn (i + 1) l' h
    omega

theorem lines_ofBytes_render (path : Path) {lines : List Line} (h : Line.Canonical lines)
    (hu : ∀ l ∈ lines, l.isUtf8) :
    (ofBytes path (lines.flatMap Line.render)).lines = lines := by
  have hr : lines.flatMap Line.render = (lines.map Line.raw).flatMap RawLine.render := by
    rw [List.flatMap_map]
    rfl
  change number 1 (RawLine.split (lines.flatMap Line.render)) = lines
  rw [hr, RawLine.split_render h.raw]
  exact number_raw (fun i l hl => by rw [h.number i l hl, Nat.add_comm]) hu

/-- Documents that are loaded are canonical, also where their source is not UTF-8. -/
theorem canonical_ofBytes (path : Path) (bytes : List UInt8) :
    Line.Canonical (ofBytes path bytes).lines where
  number i l hl := by
    change (number 1 (RawLine.split bytes))[i]? = some l at hl
    rw [number_eq_mapIdx, List.getElem?_mapIdx] at hl
    obtain ⟨raw, -, rfl⟩ := Option.map_eq_some_iff.1 hl
    exact Nat.add_comm 1 i
  cut := by
    have h := (RawLine.canonical_split bytes).decode
    rwa [← map_number (fun l => (l.text, l.ending)) _ (fun _ _ => rfl) 1] at h

/-- **Loading and rendering are inverse on documents in canonical form.**  The bytes of every
source are in canonical form when they are cut into lines, and so are the texts that they are
decoded to.  Conversely, UTF-8 lines in canonical form are loaded from their rendering, so that no
two of them are rendered to the same source. -/
theorem ofBytes_canonical (path : Path) :
    (∀ bytes, ∃ raws, RawLine.Canonical raws ∧ raws.flatMap RawLine.render = bytes ∧
      (ofBytes path bytes).lines = raws.mapIdx fun i raw => Line.ofRaw (i + 1) raw) ∧
    (∀ bytes, Line.Canonical (ofBytes path bytes).lines) ∧
    (∀ lines, Line.Canonical lines → (∀ l ∈ lines, l.isUtf8) →
      (ofBytes path (lines.flatMap Line.render)).lines = lines) ∧
    (∀ lines lines', Line.Canonical lines → (∀ l ∈ lines, l.isUtf8) →
      Line.Canonical lines' → (∀ l ∈ lines', l.isUtf8) →
      lines.flatMap Line.render = lines'.flatMap Line.render → lines = lines') := by
  refine ⟨fun bytes => ?_, canonical_ofBytes path, fun lines h hu => lines_ofBytes_render path h hu,
    fun lines lines' h hu h' hu' e => ?_⟩
  · refine ⟨RawLine.split bytes, RawLine.canonical_split bytes, RawLine.render_split bytes, ?_⟩
    simp only [Nat.add_comm _ 1]
    exact number_eq_mapIdx 1 _
  · rw [← lines_ofBytes_render path h hu, e, lines_ofBytes_render path h' hu']

/-- A carriage return before a terminator of two bytes, an empty line, and a line without
terminator. -/
def mixedEndings : List Line :=
  [⟨1, ['a', '\r'], .crlf, true⟩, ⟨2, [], .lf, true⟩, ⟨3, ['é'], .none, true⟩]

theorem ofBytes_canonical_mixedEndings :
    Line.Canonical mixedEndings ∧
      mixedEndings.flatMap Line.render = [0x61, 0x0D, 0x0D, 0x0A, 0x0A, 0xC3, 0xA9] ∧
      (ofBytes ⟨"a.c"⟩ [0x61, 0x0D, 0x0D, 0x0A, 0x0A, 0xC3, 0xA9]).lines = mixedEndings := by
  have hc : Line.Canonical mixedEndings := by
    refine ⟨fun i l hl => ?_, by constructor <;> decide⟩
    rcases i with _ | _ | _ | i <;> cases hl <;> rfl
  exact ⟨hc, by decide, (ofBytes_canonical ⟨"a.c"⟩).2.2.1 mixedEndings hc (by decide)⟩

end Document

end StyleAudit
