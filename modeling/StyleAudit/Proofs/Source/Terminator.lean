import StyleAudit.Proofs.Source.Render

/-!
# Documents without terminators

`Document.unterminated` forgets how lines end.  Sources without carriage returns are the same to it
whether a carriage return is put before every line feed (`Document.unterminated_withReturns`) or a
line feed behind an unterminated last line (`Document.unterminated_concat_lf`): the carriage returns
join the terminators, and the line feed makes no new line.  In all these sources the lines that are
terminated end alike (`Document.EndsAlike`).
-/

namespace StyleAudit

/-- Bytes with a carriage return before every line feed. -/
def withReturns (bytes : List UInt8) : List UInt8 :=
  bytes.flatMap fun b => if b = 0x0A then [0x0D, 0x0A] else [b]

/-- The terminator with a carriage return. -/
def Ending.withReturn : Ending → Ending
  | .lf => .crlf
  | ending => ending

namespace RawLine

/-- The line with its terminator replaced. -/
def mapEnding (g : Ending → Ending) (raw : RawLine) : RawLine := ⟨raw.bytes, g raw.ending⟩

theorem map_push {g : Ending → Ending} (hg : g .none = .none) {b : UInt8} (hb : b ≠ 0x0D)
    (raws : List RawLine) :
    (push b raws).map (mapEnding g) = push b (raws.map (mapEnding g)) := by
  cases raws with
  | nil => simp [push, mapEnding, hg]
  | cons raw raws =>
    -- nothing but a carriage return looks at the terminator
    have hpush (raw : RawLine) : ¬ (b = 0x0D ∧ raw = ⟨[], .lf⟩) := fun h => hb h.1
    rw [push_of_ne (hpush raw), List.map_cons, List.map_cons, push_of_ne (hpush _)]
    rfl

/-- Carriage returns before line feeds go into the terminators. -/
theorem split_withReturns {bytes : List UInt8} (h : 0x0D ∉ bytes) :
    split (withReturns bytes) = (split bytes).map (mapEnding Ending.withReturn) := by
  induction bytes with
  | nil => rfl
  | cons b rest ih =>
    obtain ⟨hb, hrest⟩ := not_or.1 (mt List.mem_cons.2 h)
    have ih := ih hrest
    rw [withReturns] at ih ⊢
    rw [List.flatMap_cons]
    by_cases hlf : b = 0x0A
    · subst hlf
      simp [split, push, ih, mapEnding, Ending.withReturn]
    · rw [if_neg hlf, List.singleton_append, split_cons_of_ne hlf, split_cons_of_ne hlf, ih,
        map_push rfl (Ne.symm hb)]

/-- A line feed behind an unterminated line ends it and starts no other. -/
theorem split_concat_lf {bytes : List UInt8} (h : 0x0D ∉ bytes) (hne : bytes ≠ [])
    (hlast : bytes.getLast? ≠ some 0x0A) :
    (split (bytes ++ [0x0A])).map (mapEnding fun _ => .none) =
      (split bytes).map (mapEnding fun _ => .none) := by
  induction bytes with
  | nil => exact absurd rfl hne
  | cons b rest ih =>
    obtain ⟨hb, hrest⟩ := not_or.1 (mt List.mem_cons.2 h)
    rw [List.cons_append]
    by_cases hnil : rest = []
    · subst hnil
      have hlf : b ≠ 0x0A := fun e => hlast (congrArg some e)
      have hcr : b ≠ 0x0D := Ne.symm hb
      simp [split, push, hlf, hcr, mapEnding]
    · rw [List.getLast?_cons_of_ne_nil hnil] at hlast
      have ih := ih hrest hnil hlast
      by_cases hlf : b = 0x0A
      · simp [split, hlf, ih]
      · rw [split_cons_of_ne hlf, split_cons_of_ne hlf, map_push rfl (Ne.symm hb), ih,
          map_push rfl (Ne.symm hb)]

theorem ending_ne_crlf {bytes : List UInt8} (h : 0x0D ∉ bytes) {raw : RawLine}
    (hr : raw ∈ split bytes) : raw.ending ≠ .crlf := by
  intro he
  refine h ?_
  rw [← render_split bytes]
  exact List.mem_flatMap.2 ⟨raw, hr, by simp [render, he, Ending.bytes]⟩

end RawLine

/-! ### Documents -/

/-- A line without its terminator. -/
def Line.unterminated (l : Line) : Line := { l with ending := .none }

namespace Document

/-- A document without terminators. -/
def unterminated (d : Document) : Document := ⟨d.path, d.lines.map Line.unterminated⟩

@[simp] theorem path_unterminated (d : Document) : d.unterminated.path = d.path := rfl

@[simp] theorem size_unterminated (d : Document) : d.unterminated.size = d.size :=
  List.length_map _

@[simp] theorem isEmpty_unterminated (d : Document) : d.unterminated.isEmpty = d.isEmpty :=
  List.isEmpty_map

theorem unterminated_number (first : Nat) (raws : List RawLine) :
    (number first raws).map Line.unterminated =
      number first (raws.map (RawLine.mapEnding fun _ => .none)) := by
  induction raws generalizing first with
  | nil => rfl
  | cons raw raws ih =>
    rw [number, List.map_cons, ih, List.map_cons, number]
    rfl

theorem unterminated_ofBytes (path : Path) (bytes : List UInt8) :
    (ofBytes path bytes).unterminated =
      ⟨path, number 1 ((RawLine.split bytes).map (RawLine.mapEnding fun _ => .none))⟩ :=
  congrArg (Document.mk path) (unterminated_number 1 (RawLine.split bytes))

theorem unterminated_withReturns (path : Path) {bytes : List UInt8} (h : 0x0D ∉ bytes) :
    (ofBytes path (withReturns bytes)).unterminated = (ofBytes path bytes).unterminated := by
  rw [unterminated_ofBytes, unterminated_ofBytes, RawLine.split_withReturns h, List.map_map]
  rfl

theorem unterminated_concat_lf (path : Path) {bytes : List UInt8} (h : 0x0D ∉ bytes)
    (hne : bytes ≠ []) (hlast : bytes.getLast? ≠ some 0x0A) :
    (ofBytes path (bytes ++ [0x0A])).unterminated = (ofBytes path bytes).unterminated := by
  rw [unterminated_ofBytes, unterminated_ofBytes, RawLine.split_concat_lf h hne hlast]

/-- Lines that are terminated end alike. -/
def EndsAlike (d : Document) (ending : Ending) : Prop :=
  ∀ l ∈ d.lines, l.ending = .none ∨ l.ending = ending

theorem endsAlike_number {raws : List RawLine} {ending : Ending}
    (h : ∀ raw ∈ raws, raw.ending = .none ∨ raw.ending = ending) (first : Nat) :
    ∀ l ∈ number first raws, l.ending = .none ∨ l.ending = ending := by
  intro l hl
  have hm := List.mem_map_of_mem (f := fun l => l.ending) hl
  rw [map_number (·.ending) (·.ending) (fun _ _ => rfl)] at hm
  obtain ⟨raw, hr, he⟩ := List.mem_map.1 hm
  rw [← he]
  exact h raw hr

theorem endsAlike_lf (path : Path) {bytes : List UInt8} (h : 0x0D ∉ bytes) :
    (ofBytes path bytes).EndsAlike .lf := by
  refine endsAlike_number (fun raw hr => ?_) 1
  have hne := RawLine.ending_ne_crlf h hr
  cases he : raw.ending with
  | lf => exact .inr rfl
  | crlf => exact absurd he hne
  | none => exact .inl rfl

theorem endsAlike_crlf (path : Path) {bytes : List UInt8} (h : 0x0D ∉ bytes) :
    (ofBytes path (withReturns bytes)).EndsAlike .crlf := by
  refine endsAlike_number (fun raw hr => ?_) 1
  rw [RawLine.split_withReturns h] at hr
  obtain ⟨raw, -, rfl⟩ := List.mem_map.1 hr
  cases he : raw.ending with
  | lf | crlf => exact .inr (by rw [RawLine.mapEnding, he]; rfl)
  | none => exact .inl (by rw [RawLine.mapEnding, he]; rfl)

end Document

end StyleAudit
