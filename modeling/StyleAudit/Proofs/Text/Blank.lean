import Mathlib.Data.List.Basic
import Mathlib.Data.List.DropRight
import Mathlib.Data.List.Infix
import Mathlib.Data.List.TakeWhile
import StyleAudit.Text.Blank

/-!
# What trimming keeps

Trimming a text takes blanks off its edges (`Text.exists_trim`), and leaves it alone if there are
none (`Text.trim_eq_iff`).  So doing it again changes nothing (`Text.trim_trim`), and it keeps every
occurrence of a character that is not blank (`Text.count_trim`), and every occurrence of a text
without blanks (`Text.occursIn_trim`).  Looking for a text is the infix relation
(`Text.occursIn_iff`).
-/

namespace StyleAudit.Text

/-- Trimming takes off blanks at the edges and nothing else. -/
theorem exists_trim (t : List Char) :
    ∃ front back, t = front ++ trim t ++ back ∧ (∀ c ∈ front, isBlank c) ∧
      ∀ c ∈ back, isBlank c := by
  have hmem (u : List Char) : ∀ c ∈ u.takeWhile isBlank, isBlank c := fun c hc =>
    List.mem_takeWhile_imp hc
  refine ⟨t.takeWhile isBlank, ((trimStart t).reverse.takeWhile isBlank).reverse, ?_, hmem t,
    fun c hc => hmem _ c (List.mem_reverse.1 hc)⟩
  rw [trim, trimEnd, List.append_assoc, ← List.reverse_append, List.takeWhile_append_dropWhile,
    List.reverse_reverse, trimStart, List.takeWhile_append_dropWhile]

theorem trim_infix_self (t : List Char) : trim t <:+: t := by
  obtain ⟨front, back, ht, -, -⟩ := exists_trim t
  exact ⟨front, back, ht.symm⟩

theorem isBlank_of_mem_spaces {n : Nat} {c : Char} (h : c ∈ List.replicate n ' ') : isBlank c := by
  rw [List.eq_of_mem_replicate h]
  rfl

/-! ### Edges -/

theorem head?_dropWhile_not (p : Char → Bool) (t : List Char) :
    ∀ c ∈ (t.dropWhile p).head?, p c = false := by
  intro c hc
  have := List.head?_dropWhile_not p t
  rw [Option.mem_def.1 hc] at this
  exact this

theorem not_isBlank_getLast?_trim (t : List Char) : ∀ c ∈ (trim t).getLast?, isBlank c = false := by
  intro c hc
  rw [trim, trimEnd, List.getLast?_reverse] at hc
  exact head?_dropWhile_not isBlank _ c hc

theorem not_isBlank_head?_trim (t : List Char) : ∀ c ∈ (trim t).head?, isBlank c = false := by
  intro c hc
  obtain ⟨rest, hrest⟩ : trim t <+: trimStart t := List.rdropWhile_prefix _ _
  refine head?_dropWhile_not isBlank t c ?_
  change c ∈ (trimStart t).head?
  rw [← hrest, List.head?_append, Option.mem_def.1 hc]
  rfl

theorem dropWhile_eq_self_of_head {p : Char → Bool} {t : List Char}
    (h : ∀ c ∈ t.head?, p c = false) : t.dropWhile p = t := by
  cases t with
  | nil => rfl
  | cons c t => exact List.dropWhile_cons_of_neg (by simp [h c rfl])

/-- Trimming leaves those texts alone whose edges are not blank. -/
theorem trim_eq_iff {t : List Char} :
    trim t = t ↔ (∀ c ∈ t.head?, isBlank c = false) ∧ ∀ c ∈ t.getLast?, isBlank c = false := by
  constructor
  · intro h
    rw [← h]
    exact ⟨not_isBlank_head?_trim t, not_isBlank_getLast?_trim t⟩
  · rintro ⟨hhead, hlast⟩
    rw [← List.head?_reverse] at hlast
    rw [trim, trimStart, dropWhile_eq_self_of_head hhead, trimEnd, dropWhile_eq_self_of_head hlast,
      List.reverse_reverse]

theorem trim_trim (t : List Char) : trim (trim t) = trim t :=
  trim_eq_iff.2 ⟨not_isBlank_head?_trim t, not_isBlank_getLast?_trim t⟩

theorem trim_eq_self {t : List Char} (h : ∀ c ∈ t, isBlank c = false) : trim t = t :=
  trim_eq_iff.2 ⟨fun c hc => h c (List.mem_of_mem_head? hc),
    fun c hc => h c (List.mem_of_getLast? hc)⟩

/-- Blanks at the edges make no difference. -/
theorem trim_append {front back : List Char} (hf : ∀ c ∈ front, isBlank c)
    (hb : ∀ c ∈ back, isBlank c) (t : List Char) : trim (front ++ t ++ back) = trim t := by
  have hstart : trimStart (front ++ t ++ back) = trimStart (t ++ back) := by
    rw [trimStart, List.append_assoc, List.dropWhile_append_of_pos hf]
    rfl
  have hend (u : List Char) : trimEnd (u ++ back) = trimEnd u := by
    rw [trimEnd, List.reverse_append, List.dropWhile_append_of_pos]
    · rfl
    · exact fun c hc => hb c (List.mem_reverse.1 hc)
  rw [trim, hstart, trimStart, List.dropWhile_append, trim]
  split_ifs with ht
  · -- nothing is left of a text of blanks only
    rw [List.dropWhile_eq_nil_iff.2 hb, trimStart, List.isEmpty_iff.1 ht]
  · exact hend _

theorem count_trim {c : Char} (h : isBlank c = false) (t : List Char) :
    (trim t).count c = t.count c := by
  obtain ⟨front, back, ht, hfront, hback⟩ := exists_trim t
  have hzero (u : List Char) (hu : ∀ c ∈ u, isBlank c) : u.count c = 0 := by
    rw [List.count_eq_zero]
    intro hc
    simp [hu c hc] at h
  conv_rhs => rw [ht]
  rw [List.count_append, List.count_append, hzero front hfront, hzero back hback]
  omega

theorem mem_trim_iff {c : Char} (h : isBlank c = false) {t : List Char} : c ∈ trim t ↔ c ∈ t := by
  rw [← List.count_pos_iff, count_trim h, List.count_pos_iff]

/-! ### Occurrences -/

theorem occursIn_iff {needle t : List Char} : occursIn needle t = true ↔ needle <:+: t := by
  induction t with
  | nil => simp [occursIn]
  | cons c t ih =>
    rw [occursIn, Bool.or_eq_true, List.isPrefixOf_iff_prefix, ih, List.infix_cons_iff]

theorem infix_of_infix_append {needle front t : List Char} (hn : ∀ c ∈ needle, isBlank c = false)
    (hf : ∀ c ∈ front, isBlank c) (h : needle <:+: front ++ t) : needle <:+: t := by
  induction front with
  | nil => exact h
  | cons b front ih =>
    rcases List.infix_cons_iff.1 h with hp | hi
    · -- an occurrence at the front would start with a blank
      cases needle with
      | nil => exact List.nil_infix
      | cons c needle =>
        obtain rfl : c = b := (List.cons_prefix_cons.1 hp).1
        have := hn c List.mem_cons_self
        rw [hf c List.mem_cons_self] at this
        cases this
    · exact ih (fun c hc => hf c (List.mem_cons_of_mem b hc)) hi

/-- Trimming breaks no occurrence of a text without blanks. -/
theorem infix_trim {needle t : List Char} (hn : ∀ c ∈ needle, isBlank c = false)
    (h : needle <:+: t) : needle <:+: trim t := by
  obtain ⟨front, back, ht, hfront, hback⟩ := exists_trim t
  rw [ht, List.append_assoc] at h
  have h := infix_of_infix_append hn hfront h
  rw [← List.reverse_infix, List.reverse_append] at h
  have h := infix_of_infix_append (fun c hc => hn c (List.mem_reverse.1 hc))
    (fun c hc => hback c (List.mem_reverse.1 hc)) h
  exact List.reverse_infix.1 h

theorem occursIn_trim {needle : List Char} (hn : ∀ c ∈ needle, isBlank c = false)
    (t : List Char) : occursIn needle (trim t) = occursIn needle t := by
  rw [Bool.eq_iff_iff, occursIn_iff, occursIn_iff]
  exact ⟨fun h => h.trans (trim_infix_self t), infix_trim hn⟩

end StyleAudit.Text
