import Mathlib.Data.List.Basic
import StyleAudit.Source.Document

/-!
# Cutting bytes into lines

`Cut` says what pieces look like that come from a cut at line feeds: no piece holds a line feed, a
carriage return before a line feed belongs to the terminator, and only the last piece may be
unterminated, if it is not empty.  `RawLine.split` gives such pieces (`RawLine.canonical_split`),
they make up the bytes again (`RawLine.render_split`), and it is the only way to cut them
(`RawLine.split_render`).
-/

namespace StyleAudit

/-- Pieces and their terminators as a cut at line feeds leaves them. -/
structure Cut {α : Type} (lf cr : α) (pieces : List (List α × Ending)) : Prop where
  /-- No piece holds a line feed. -/
  lf_notMem : ∀ p ∈ pieces, lf ∉ p.1
  /-- A piece before a line feed does not end in a carriage return. -/
  cr_ne : ∀ p ∈ pieces, p.2 = .lf → p.1.getLast? ≠ some cr
  /-- Only the last piece may be unterminated. -/
  terminated : ∀ p ∈ pieces.dropLast, p.2 ≠ .none
  /-- An unterminated piece is not empty. -/
  ne_nil : ∀ p ∈ pieces, p.2 = .none → p.1 ≠ []

namespace Cut

variable {α : Type} {lf cr : α} {p : List α × Ending} {pieces : List (List α × Ending)}

theorem nil : Cut lf cr [] := by
  constructor <;> simp

theorem head (h : Cut lf cr (p :: pieces)) :
    lf ∉ p.1 ∧ (p.2 = .lf → p.1.getLast? ≠ some cr) ∧ (p.2 = .none → p.1 ≠ [] ∧ pieces = []) := by
  refine ⟨h.lf_notMem p List.mem_cons_self, h.cr_ne p List.mem_cons_self, fun hn => ?_⟩
  refine ⟨h.ne_nil p List.mem_cons_self hn, ?_⟩
  by_contra hne
  refine h.terminated p ?_ hn
  rw [List.dropLast_cons_of_ne_nil hne]
  exact List.mem_cons_self

theorem tail (h : Cut lf cr (p :: pieces)) : Cut lf cr pieces where
  lf_notMem q hq := h.lf_notMem q (List.mem_cons_of_mem _ hq)
  cr_ne q hq := h.cr_ne q (List.mem_cons_of_mem _ hq)
  terminated q hq := h.terminated q (by
    have hne : pieces ≠ [] := by rintro rfl; simp at hq
    rw [List.dropLast_cons_of_ne_nil hne]
    exact List.mem_cons_of_mem _ hq)
  ne_nil q hq := h.ne_nil q (List.mem_cons_of_mem _ hq)

theorem cons (hp : lf ∉ p.1) (hcr : p.2 = .lf → p.1.getLast? ≠ some cr)
    (hn : p.2 = .none → p.1 ≠ [] ∧ pieces = []) (h : Cut lf cr pieces) :
    Cut lf cr (p :: pieces) where
  lf_notMem q hq := by
    rcases List.mem_cons.1 hq with rfl | hq
    · exact hp
    · exact h.lf_notMem q hq
  cr_ne q hq := by
    rcases List.mem_cons.1 hq with rfl | hq
    · exact hcr
    · exact h.cr_ne q hq
  terminated q hq := by
    by_cases hne : pieces = []
    · simp [hne] at hq
    rw [List.dropLast_cons_of_ne_nil hne] at hq
    rcases List.mem_cons.1 hq with rfl | hq
    · exact fun e => hne (hn e).2
    · exact h.terminated q hq
  ne_nil q hq := by
    rcases List.mem_cons.1 hq with rfl | hq
    · exact fun e => (hn e).1
    · exact h.ne_nil q hq

/-- Pieces stay cut when their contents are replaced, if line feeds, carriage returns at the end
and emptiness are not made up. -/
theorem map {β : Type} {lf' cr' : β} (f : List α → List β) (hlf : ∀ t, lf' ∈ f t → lf ∈ t)
    (hcr : ∀ t, (f t).getLast? = some cr' → t.getLast? = some cr)
    (hnil : ∀ t, f t = [] → t = []) (h : Cut lf cr pieces) :
    Cut lf' cr' (pieces.map fun p => (f p.1, p.2)) := by
  induction pieces with
  | nil => exact .nil
  | cons p pieces ih =>
    obtain ⟨hp, hc, hn⟩ := h.head
    refine .cons (mt (hlf _) hp) (fun he => mt (hcr _) (hc he)) (fun he => ?_) (ih h.tail)
    exact ⟨mt (hnil _) (hn he).1, by rw [(hn he).2]; rfl⟩

end Cut

namespace RawLine

/-- The bytes of a line and its terminator. -/
def render (raw : RawLine) : List UInt8 := raw.bytes ++ raw.ending.bytes

/-- Lines as a cut at line feeds leaves them. -/
def Canonical (raws : List RawLine) : Prop :=
  Cut 0x0A 0x0D (raws.map fun raw => (raw.bytes, raw.ending))

/-! ### Nothing is lost -/

theorem render_push (b : UInt8) (raws : List RawLine) :
    (push b raws).flatMap render = b :: raws.flatMap render := by
  cases raws with
  | nil => simp [push, render, Ending.bytes]
  | cons raw raws =>
    rw [push]
    split_ifs with h
    · obtain ⟨rfl, rfl⟩ := h
      simp [render, Ending.bytes]
    · simp [render]

/-- The lines make up the bytes again. -/
theorem render_split (bytes : List UInt8) : (split bytes).flatMap render = bytes := by
  induction bytes with
  | nil => rfl
  | cons b rest ih =>
    rw [split]
    split_ifs with h
    · simp [render, Ending.bytes, ih, h]
    · rw [render_push, ih]

theorem length_push_le (b : UInt8) (raws : List RawLine) :
    (push b raws).length ≤ raws.length + 1 := by
  cases raws with
  | nil => simp [push]
  | cons raw raws => rw [push]; split_ifs <;> simp

theorem length_split_le (bytes : List UInt8) : (split bytes).length ≤ bytes.length := by
  induction bytes with
  | nil => simp [split]
  | cons b rest ih =>
    rw [split]
    split_ifs
    · simpa using ih
    · exact Nat.le_trans (length_push_le b _) (Nat.succ_le_succ ih)

/-! ### The cut is canonical -/

theorem canonical_push {b : UInt8} (hb : b ≠ 0x0A) {raws : List RawLine} (h : Canonical raws) :
    Canonical (push b raws) := by
  cases raws with
  | nil => exact .cons (by simpa using hb.symm) (by simp) (by simp) .nil
  | cons raw raws =>
    obtain ⟨hlf, hcr, hn⟩ := Cut.head h
    rw [push]
    split_ifs with hc
    · exact .cons (by simp) (by simp) (by simp) (Cut.tail h)
    · refine .cons ?_ (fun he => ?_) (fun he => ?_) (Cut.tail h)
      · simp only [List.mem_cons, not_or]
        exact ⟨hb.symm, hlf⟩
      · -- the byte is last only before an empty line, and then it is no carriage return
        obtain ⟨bytes, ending⟩ := raw
        cases bytes with
        | nil =>
          simp only at he
          subst he
          simpa using hc
        | cons b' bytes => simpa using hcr he
      · exact ⟨by simp, (hn he).2⟩

/-- Lines are cut at every line feed and nowhere else. -/
theorem canonical_split (bytes : List UInt8) : Canonical (split bytes) := by
  induction bytes with
  | nil => exact .nil
  | cons b rest ih =>
    rw [split]
    split_ifs with h
    · exact .cons (by simp) (by simp) (by simp) ih
    · exact canonical_push h ih

/-! ### It is the only one -/

theorem push_of_ne {b : UInt8} {raw : RawLine} (h : ¬ (b = 0x0D ∧ raw = ⟨[], .lf⟩))
    (raws : List RawLine) : push b (raw :: raws) = ⟨b :: raw.bytes, raw.ending⟩ :: raws := by
  rw [push, if_neg h]

theorem split_cons_of_ne {b : UInt8} (h : b ≠ 0x0A) (rest : List UInt8) :
    split (b :: rest) = push b (split rest) := by
  rw [split, if_neg h]

theorem split_lf {bytes : List UInt8} (h : 0x0A ∉ bytes) (hcr : bytes.getLast? ≠ some 0x0D)
    (rest : List UInt8) : split (bytes ++ 0x0A :: rest) = ⟨bytes, .lf⟩ :: split rest := by
  induction bytes with
  | nil => simp [split]
  | cons b bytes ih =>
    obtain ⟨hb, hbytes⟩ := not_or.1 (mt List.mem_cons.2 h)
    have hlast : bytes.getLast? ≠ some 0x0D := by
      intro e
      apply hcr
      rw [List.getLast?_cons, e]
      rfl
    rw [List.cons_append, split_cons_of_ne (Ne.symm hb), ih hbytes hlast, push_of_ne]
    rintro ⟨rfl, he⟩
    cases he
    exact hcr rfl

theorem split_crlf {bytes : List UInt8} (h : 0x0A ∉ bytes) (rest : List UInt8) :
    split (bytes ++ 0x0D :: 0x0A :: rest) = ⟨bytes, .crlf⟩ :: split rest := by
  induction bytes with
  | nil => simp [split, push]
  | cons b bytes ih =>
    obtain ⟨hb, hbytes⟩ := not_or.1 (mt List.mem_cons.2 h)
    rw [List.cons_append, split_cons_of_ne (Ne.symm hb), ih hbytes, push_of_ne]
    rintro ⟨-, he⟩
    cases he

theorem split_unterminated {bytes : List UInt8} (h : 0x0A ∉ bytes) (hne : bytes ≠ []) :
    split bytes = [⟨bytes, .none⟩] := by
  induction bytes with
  | nil => exact absurd rfl hne
  | cons b bytes ih =>
    obtain ⟨hb, hbytes⟩ := not_or.1 (mt List.mem_cons.2 h)
    rw [split_cons_of_ne (Ne.symm hb)]
    by_cases he : bytes = []
    · subst he
      rfl
    · rw [ih hbytes he, push_of_ne]
      rintro ⟨-, he⟩
      cases he

/-- Canonical lines are the cut of the bytes that they make up. -/
theorem split_render {raws : List RawLine} (h : Canonical raws) :
    split (raws.flatMap render) = raws := by
  induction raws with
  | nil => rfl
  | cons raw raws ih =>
    obtain ⟨bytes, ending⟩ := raw
    obtain ⟨hlf, hcr, hn⟩ := Cut.head h
    have ih := ih (Cut.tail h)
    rw [List.flatMap_cons, render]
    cases ending with
    | lf =>
      simp only [Ending.bytes, List.append_assoc, List.singleton_append]
      rw [split_lf hlf (hcr rfl), ih]
    | crlf =>
      simp only [Ending.bytes, List.append_assoc, List.cons_append, List.nil_append]
      rw [split_crlf hlf, ih]
    | none =>
      obtain ⟨hne, hnil⟩ := hn rfl
      obtain rfl : raws = [] := List.map_eq_nil_iff.1 hnil
      simpa [Ending.bytes] using split_unterminated hlf hne

end RawLine

end StyleAudit
