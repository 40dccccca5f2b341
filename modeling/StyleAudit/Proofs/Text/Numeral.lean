import Mathlib.Data.List.Basic
import StyleAudit.Text.Blank
import StyleAudit.Text.Numeral

/-!
# Words and numerals

Texts for people hold numbers in decimal digits between other words.  A number is read back from
its digits (`Text.natOfDigits?_toString`), and so are the numbers of a text of which nothing else
holds a digit: `Text.numbers` finds them, and `Text.numbers_toString` and
`Text.numbers_append_of_notDigit` say what each piece of a text adds.
-/

namespace StyleAudit.Text

variable {w t : List Char}

/-- A text that is given by its characters has what they have.  The characters of a literal are
known at once, whereas `toList` takes its bytes apart. -/
theorem of_ofList {p : List Char → Prop} {s : String} (h : ∃ t, s = String.ofList t ∧ p t) :
    p s.toList := by
  obtain ⟨t, rfl, ht⟩ := h
  rwa [String.toList_ofList]

/-! ### Numerals -/

theorem toList_toString (n : Nat) : (toString n).toList = Nat.toDigits 10 n :=
  Nat.toList_repr

theorem isDigit_of_mem_toString {n : Nat} {c : Char} (h : c ∈ (toString n).toList) : c.isDigit := by
  rw [toList_toString] at h
  exact Nat.isDigit_of_mem_toDigits (by decide) (by decide) h

theorem toList_toString_ne_nil (n : Nat) : (toString n).toList ≠ [] := by
  rw [toList_toString]
  exact Nat.toDigits_ne_nil

theorem toNat_of_isDigit {c : Char} (h : c.isDigit) : 48 ≤ c.toNat ∧ c.toNat ≤ 57 :=
  Char.isDigit_iff_toNat.1 h

theorem digitValue?_of_isDigit {c : Char} (h : c.isDigit) :
    digitValue? 10 c = some (c.toNat - '0'.toNat) := by
  have hlt : c.toNat - '0'.toNat < 10 := by
    obtain ⟨-, hle⟩ := toNat_of_isDigit h
    change c.toNat - 48 < 10
    omega
  rw [digitValue?]
  simp only [h, if_true, if_pos hlt]

theorem digitValue?_of_not_isDigit {c : Char} (h : c.isDigit = false) :
    digitValue? 10 c = none := by
  rw [digitValue?]
  simp only [h, Bool.false_eq_true, if_false]
  -- a letter stands for ten at least
  split_ifs <;> first | rfl | omega

/-- Digits are read one by one, and nothing else is. -/
theorem foldl_digits (t : List Char) (init : Nat) :
    t.foldl (fun acc c => acc.bind fun n => (digitValue? 10 c).map (n * 10 + ·)) (some init) =
      if t.all Char.isDigit then some (Nat.ofDigitChars 10 t init) else none := by
  have hnone (t : List Char) :
      t.foldl (fun acc c => acc.bind fun n => (digitValue? 10 c).map (n * 10 + ·)) none = none := by
    induction t with
    | nil => rfl
    | cons c t ih => exact ih
  induction t generalizing init with
  | nil => rfl
  | cons c t ih =>
    rw [List.foldl_cons, Option.bind_some, List.all_cons]
    cases hc : c.isDigit with
    | true =>
      rw [digitValue?_of_isDigit hc, Option.map_some, ih, Nat.ofDigitChars_cons, Nat.mul_comm,
        Bool.true_and]
    | false =>
      rw [digitValue?_of_not_isDigit hc, Option.map_none, hnone]
      rfl

/-- The value of a text of digits. -/
theorem natOfDigits?_eq_some_iff {n : Nat} :
    natOfDigits? 10 t = some n ↔
      t ≠ [] ∧ (∀ c ∈ t, c.isDigit) ∧ Nat.ofDigitChars 10 t 0 = n := by
  rw [natOfDigits?, foldl_digits]
  split_ifs with hnil hall
  · simp [List.isEmpty_iff.1 hnil]
  · simpa [List.isEmpty_iff.not.1 hnil] using fun _ => List.all_eq_true.1 hall
  · simpa using fun _ hd => absurd (List.all_eq_true.2 hd) hall

/-- A number is the value of its digits. -/
theorem natOfDigits?_toString (n : Nat) : natOfDigits? 10 (toString n).toList = some n := by
  refine natOfDigits?_eq_some_iff.2
    ⟨toList_toString_ne_nil n, fun c => isDigit_of_mem_toString, ?_⟩
  rw [toList_toString, Nat.ofDigitChars_ten_toDigits]

theorem toString_injective : Function.Injective (toString : Nat → String) := fun m n h => by
  rw [← Option.some_inj, ← natOfDigits?_toString, h, natOfDigits?_toString]

theorem isBlank_of_mem_toString {n : Nat} {c : Char} (h : c ∈ (toString n).toList) :
    isBlank c = false := by
  obtain ⟨hge, hle⟩ := toNat_of_isDigit (isDigit_of_mem_toString h)
  simp only [isBlank, Bool.or_eq_false_iff, Bool.and_eq_false_iff, beq_eq_false_iff_ne,
    decide_eq_false_iff_not]
  omega

/-! ### Words -/

theorem wordsFrom_append (hw : ∀ c ∈ w, isBlank c = false) (word rest : List Char) :
    wordsFrom word (w ++ rest) = wordsFrom (w.reverse ++ word) rest := by
  induction w generalizing word with
  | nil => rfl
  | cons c w ih =>
    obtain ⟨hc, hw⟩ := List.forall_mem_cons.1 hw
    rw [List.cons_append, wordsFrom, if_neg (by simp [hc]), ih hw, List.reverse_cons,
      List.append_assoc]
    rfl

theorem words_append_of_blank {blanks : List Char} (h : ∀ c ∈ blanks, isBlank c) (t : List Char) :
    words (blanks ++ t) = words t := by
  induction blanks with
  | nil => rfl
  | cons c blanks ih =>
    obtain ⟨hc, h⟩ := List.forall_mem_cons.1 h
    rw [List.cons_append, words, wordsFrom, if_pos hc, if_pos List.isEmpty_nil]
    exact ih h

/-- A text that is one word. -/
structure OneWord (w : List Char) : Prop where
  /-- There is something. -/
  ne_nil : w ≠ []
  /-- Nothing is blank. -/
  not_blank : ∀ c ∈ w, isBlank c = false

instance (w : List Char) : Decidable (OneWord w) :=
  decidable_of_iff (w ≠ [] ∧ (w.all fun c => !isBlank c) = true)
    ⟨fun h => ⟨h.1, by simpa using h.2⟩, fun h => ⟨h.ne_nil, by simpa using h.not_blank⟩⟩

theorem oneWord_toString (n : Nat) : OneWord (toString n).toList :=
  ⟨toList_toString_ne_nil n, fun _ => isBlank_of_mem_toString⟩

theorem OneWord.words_eq (h : OneWord w) : words w = [w] := by
  have hfrom := wordsFrom_append h.not_blank [] []
  rw [List.append_nil, List.append_nil] at hfrom
  rw [words, hfrom, wordsFrom, List.isEmpty_reverse, List.reverse_reverse,
    if_neg (by simpa using h.ne_nil)]

/-- A word ends at the first blank. -/
theorem OneWord.words_append_cons (h : OneWord w) {b : Char} (hb : isBlank b) (t : List Char) :
    words (w ++ b :: t) = w :: words t := by
  rw [words, wordsFrom_append h.not_blank, wordsFrom, if_pos hb, List.append_nil,
    List.isEmpty_reverse, List.reverse_reverse, if_neg (by simpa using h.ne_nil)]
  rfl

/-! ### Numbers in a text -/

/-- The text with a blank for everything but digits. -/
def digitsOnly (t : List Char) : List Char := t.map fun c => if c.isDigit then c else ' '

/-- The numbers in a text, in order. -/
def numbers (t : List Char) : List Nat := (words (digitsOnly t)).filterMap (natOfDigits? 10)

theorem digitsOnly_toString (n : Nat) :
    digitsOnly (toString n).toList = (toString n).toList := by
  conv_rhs => rw [← List.map_id (toString n).toList]
  exact List.map_congr_left fun c hc => if_pos (isDigit_of_mem_toString hc)

/-- A text without digits adds no number. -/
theorem numbers_append_of_notDigit (h : w.any Char.isDigit = false) (t : List Char) :
    numbers (w ++ t) = numbers t := by
  rw [numbers, digitsOnly, List.map_append, words_append_of_blank]
  · rfl
  · intro c hc
    obtain ⟨c', hc', rfl⟩ := List.mem_map.1 hc
    rw [if_neg (List.any_eq_false.1 h c' hc')]
    rfl

/-- A number that something else follows is found. -/
theorem numbers_toString (n : Nat) {c : Char} (hc : c.isDigit = false) (t : List Char) :
    numbers ((toString n).toList ++ c :: t) = n :: numbers t := by
  have hdigits : digitsOnly ((toString n).toList ++ c :: t) =
      (toString n).toList ++ ' ' :: digitsOnly t := by
    rw [digitsOnly, List.map_append, List.map_cons, if_neg (by simp [hc]), ← digitsOnly,
      digitsOnly_toString]
    rfl
  rw [numbers, hdigits, (oneWord_toString n).words_append_cons rfl,
    List.filterMap_cons_some (natOfDigits?_toString n)]
  rfl

end StyleAudit.Text
