import StyleAudit.Proofs.Source.Render
import StyleAudit.Text.Lines

/-!
# Lines of a source and lines of its text

`RawLine.split` cuts the bytes of a source, and each line is decoded by itself.  `Text.lines` cuts a
text.  The lines of a document are those of the decoded source all the same
(`Document.map_text_ofBytes`): a terminator may be decoded by itself, and a text that is cut leaves
its pieces (`Text.lines_cut`).
-/

namespace StyleAudit

/-- The characters of a terminator. -/
def Ending.chars : Ending → List Char
  | .lf => ['\n']
  | .crlf => ['\r', '\n']
  | .none => []

theorem Ending.encode_chars (ending : Ending) : Utf8.encode ending.chars = ending.bytes := by
  cases ending <;> decide

namespace Text

variable {t : List Char}

theorem linesFrom_append (h : '\n' ∉ t) (line rest : List Char) :
    linesFrom line (t ++ rest) = linesFrom (t.reverse ++ line) rest := by
  induction t generalizing line with
  | nil => rfl
  | cons c t ih =>
    obtain ⟨hc, ht⟩ := not_or.1 (mt List.mem_cons.2 h)
    rw [List.cons_append, linesFrom, if_neg (Ne.symm hc), ih ht, List.reverse_cons,
      List.append_assoc]
    rfl

theorem lines_append_lf (h : '\n' ∉ t) (rest : List Char) :
    lines (t ++ '\n' :: rest) = dropReturn t :: lines rest := by
  rw [lines, linesFrom_append h, linesFrom, if_pos rfl, List.append_nil, List.reverse_reverse]
  rfl

theorem lines_of_notMem (h : '\n' ∉ t) (hne : t ≠ []) : lines t = [t] := by
  have := linesFrom_append h [] []
  rw [List.append_nil, List.append_nil] at this
  rw [lines, this, linesFrom, List.isEmpty_reverse, List.reverse_reverse,
    if_neg (by simpa using hne)]

theorem dropReturn_concat (t : List Char) : dropReturn (t ++ ['\r']) = t := by
  simp [dropReturn]

theorem dropReturn_of_ne (h : t.getLast? ≠ some '\r') : dropReturn t = t :=
  if_neg (by simpa using h)

/-- The lines of a text are those that it was made of. -/
theorem lines_flatMap_lf {ts : List (List Char)} (h : ∀ t ∈ ts, '\n' ∉ t ∧ '\r' ∉ t) :
    lines (ts.flatMap (· ++ ['\n'])) = ts := by
  induction ts with
  | nil => rfl
  | cons t ts ih =>
    obtain ⟨⟨hlf, hcr⟩, h⟩ := List.forall_mem_cons.1 h
    rw [List.flatMap_cons, List.append_assoc, List.singleton_append, lines_append_lf hlf, ih h,
      dropReturn_of_ne fun hlast => hcr (List.mem_of_getLast? hlast)]

/-- The lines of a text are the pieces that it was made of. -/
theorem lines_cut {pieces : List (List Char × Ending)} (h : Cut '\n' '\r' pieces) :
    lines (pieces.flatMap fun p => p.1 ++ p.2.chars) = pieces.map Prod.fst := by
  induction pieces with
  | nil => rfl
  | cons p pieces ih =>
    obtain ⟨t, ending⟩ := p
    obtain ⟨hlf, hcr, hn⟩ := h.head
    rw [List.flatMap_cons, List.map_cons, ← ih h.tail]
    generalize hr : (pieces.flatMap fun p => p.1 ++ p.2.chars) = rest
    cases ending with
    | lf =>
      simp only [Ending.chars, List.append_assoc, List.singleton_append]
      rw [lines_append_lf hlf, dropReturn_of_ne (hcr rfl)]
    | crlf =>
      have hlf' : '\n' ∉ t ++ ['\r'] := by simpa using hlf
      have := lines_append_lf hlf' rest
      rw [dropReturn_concat, List.append_assoc] at this
      simpa [Ending.chars] using this
    | none =>
      -- nothing follows an unterminated piece
      obtain ⟨hne, rfl⟩ := hn rfl
      subst hr
      simpa [Ending.chars, lines, linesFrom] using lines_of_notMem hlf hne

end Text

open Utf8

theorem RawLine.decode_render {raws : List RawLine} (h : Canonical raws) :
    decode (raws.flatMap render) =
      raws.flatMap fun raw => decode raw.bytes ++ raw.ending.chars := by
  have he : encode (raws.flatMap fun raw => decode raw.bytes ++ raw.ending.chars) =
      raws.flatMap fun raw => encode (decode raw.bytes) ++ raw.ending.bytes := by
    rw [encode, List.flatMap_assoc]
    refine List.flatMap_congr fun raw _ => ?_
    rw [← Ending.encode_chars]
    exact encode_append _ _
  -- `decode` does not split over bytes, but both sides have the same encoding
  rw [← decode_encode (decode (raws.flatMap render)), encode_decode_render h, ← he, decode_encode]

/-- **The lines of a document are the lines of its decoded source.** -/
theorem Document.map_text_ofBytes (path : Path) (bytes : List UInt8) :
    (ofBytes path bytes).lines.map (·.text) = Text.lines (decode bytes) := by
  have hc := RawLine.canonical_split bytes
  have hd := RawLine.decode_render hc
  have hl := Text.lines_cut hc.decode
  rw [RawLine.render_split] at hd
  rw [List.flatMap_map, List.map_map, ← hd] at hl
  rw [hl]
  exact map_number (·.text) _ (fun _ _ => rfl) 1 (RawLine.split bytes)

end StyleAudit
