import StyleAudit.Declaration.Marker
import StyleAudit.Proofs.Declaration.Lexeme

/-!
# How markers are written

A marker is `#`, perhaps the word `line`, a number in decimal digits of any script, and a file in
quotes, with blanks between them (`Marker.Written`).  What follows the closing quote does not count.
`Marker.read?_eq_some_iff` says that the reader accepts these texts and no others: it takes maximal
runs, and no run can be cut elsewhere, since digits are neither blank nor letters.

Digits of other scripts make a marker, but no number: that takes ASCII digits and a value that is a
count (`Marker.number?_eq_some_iff`).
-/

namespace StyleAudit

namespace Text

/-- No blank is a decimal digit. -/
theorem not_isDecimal_of_isBlank {c : Char} (h : isBlank c = true) : isDecimal c = false := by
  have hall : ∀ n ∈ blankCodes, isDecimal (Char.ofNat n) = false := by decide +kernel
  have hc := hall c.toNat (toNat_mem_blankCodes h)
  rwa [Char.ofNat_toNat] at hc

theorem not_isBlank_of_isDecimal {c : Char} (h : isDecimal c = true) : isBlank c = false := by
  by_contra hb
  rw [not_isDecimal_of_isBlank (by simpa using hb)] at h
  cases h

end Text

namespace Marker

open Text

/-! ### Grammar -/

/-- The word `line` may stand before the number, with blanks behind it. -/
def IsWord (word : List Char) : Prop :=
  word = [] ∨ ∃ gap, word = 'l' :: 'i' :: 'n' :: 'e' :: gap ∧ gap ≠ [] ∧ ∀ c ∈ gap, isBlank c

/-- What stands in a marker before its number, and between its number and its file. -/
structure Fits (m : Marker) (front word gap : List Char) : Prop where
  /-- Blanks behind `#`. -/
  front : ∀ c ∈ front, isBlank c
  /-- The word before the number. -/
  word : IsWord word
  /-- There is a number. -/
  digits_ne_nil : m.digits ≠ []
  /-- It is in decimal digits of any script. -/
  digits : ∀ c ∈ m.digits, isDecimal c
  /-- Blanks follow the number. -/
  gap_ne_nil : gap ≠ []
  /-- Only blanks do. -/
  gap : ∀ c ∈ gap, isBlank c
  /-- The file has no quote. -/
  file : '"' ∉ m.file

/-- The line starts with the marker. -/
def Written (m : Marker) (line : List Char) : Prop :=
  ∃ front word gap rest, m.Fits front word gap ∧
    line = '#' :: (front ++ (word ++ (m.digits ++ (gap ++ '"' :: (m.file ++ '"' :: rest)))))

/-! ### Reading -/

theorem oneWord_line : ∀ w ∈ ["line"], OneWord w.toList := by decide

/-- What is left behind the word, if the word is there. -/
theorem exists_word (t : List Char) :
    ∃ word, IsWord word ∧ t = word ++ (Declaration.readKeyword ["line"] t).getD t := by
  cases h : Declaration.readKeyword ["line"] t with
  | none => exact ⟨[], .inl rfl, rfl⟩
  | some rest =>
    obtain ⟨-, w, hw, blanks, hblanks, rfl⟩ :=
      (Declaration.readKeyword_eq_some_iff oneWord_line).1 h
    obtain rfl := List.mem_singleton.1 hw
    obtain ⟨hne, hblank⟩ := mem_gap.1 hblanks
    refine ⟨"line".toList ++ blanks, .inr ⟨blanks, rfl, hne, hblank⟩, ?_⟩
    rw [Option.getD_some, List.append_assoc]

/-- A text that starts with a digit is what is left behind the word. -/
theorem getD_readKeyword {word : List Char} (hw : IsWord word) {c : Char} (hc : isDecimal c)
    (t : List Char) :
    (Declaration.readKeyword ["line"] (trimStart (word ++ c :: t))).getD
      (trimStart (word ++ c :: t)) = c :: t := by
  have hblank := not_isBlank_of_isDecimal hc
  rcases hw with rfl | ⟨blanks, rfl, hne, hblanks⟩
  · have hnone : Declaration.readKeyword ["line"] (c :: t) = none := by
      refine Option.eq_none_iff_forall_ne_some.2 fun rest h => ?_
      obtain ⟨-, w, hw, g, -, ht⟩ := (Declaration.readKeyword_eq_some_iff oneWord_line).1 h
      obtain rfl := List.mem_singleton.1 hw
      obtain ⟨rfl, -⟩ : c = 'l' ∧ _ := List.cons.inj ht
      revert hc
      decide
    rw [List.nil_append, trimStart_cons_of_not hblank, hnone]
    rfl
  · have hsome : Declaration.readKeyword ["line"] ("line".toList ++ (blanks ++ c :: t)) =
        some (c :: t) := by
      refine (Declaration.readKeyword_eq_some_iff oneWord_line).2
        ⟨?_, "line", List.mem_singleton_self _, blanks, mem_gap.2 ⟨hne, hblanks⟩, rfl⟩
      rintro _ ⟨⟩
      exact hblank
    have hline : 'l' :: 'i' :: 'n' :: 'e' :: blanks ++ c :: t =
        "line".toList ++ (blanks ++ c :: t) := rfl
    have htrim : trimStart ("line".toList ++ (blanks ++ c :: t)) =
        "line".toList ++ (blanks ++ c :: t) := trimStart_cons_of_not (by decide) _
    rw [hline, htrim, hsome]
    rfl

theorem takeWhile_ne_nil {p : Char → Bool} {t : List Char} (h : t.head?.any p) :
    t.takeWhile p ≠ [] := by
  cases t with
  | nil => cases h
  | cons c t =>
    have hc : p c = true := h
    rw [List.takeWhile_cons_of_pos hc]
    exact List.cons_ne_nil _ _

theorem written_of_read? {line : List Char} {m : Marker} (h : read? line = some m) :
    m.Written line := by
  unfold read? at h
  split at h
  · rename_i behind
    obtain ⟨word, hword, hsplit⟩ := exists_word (trimStart behind)
    simp only at h
    split_ifs at h with hcond
    split at h
    · rename_i quoted hquoted
      split_ifs at h with hq
      cases h
      generalize (Declaration.readKeyword ["line"] (trimStart behind)).getD (trimStart behind) =
        number at hcond hquoted hsplit ⊢
      simp only [Bool.or_eq_true, List.isEmpty_iff, Bool.not_eq_true', not_or,
        Bool.not_eq_false] at hcond
      obtain ⟨hdigits, hblank⟩ := hcond
      obtain ⟨rest, -, hrest⟩ := exists_dropWhile_ne (List.contains_iff_mem.1 hq)
      refine ⟨behind.takeWhile isBlank, word, (number.dropWhile isDecimal).takeWhile isBlank, rest,
        ⟨fun c hc => List.mem_takeWhile_imp hc, hword, hdigits,
          fun c hc => List.mem_takeWhile_imp hc, takeWhile_ne_nil hblank,
          fun c hc => List.mem_takeWhile_imp hc,
          fun hc => by simpa using List.mem_takeWhile_imp hc⟩, ?_⟩
      rw [← hrest, ← hquoted, trimStart, List.takeWhile_append_dropWhile,
        List.takeWhile_append_dropWhile, ← hsplit, trimStart, List.takeWhile_append_dropWhile]
    · cases h
  · cases h

theorem read?_of_written {line : List Char} {m : Marker} (h : m.Written line) :
    read? line = some m := by
  obtain ⟨front, word, gap, rest, hm, rfl⟩ := h
  obtain ⟨d, ds, hd⟩ := List.exists_cons_of_ne_nil hm.digits_ne_nil
  obtain ⟨g, gs, rfl⟩ := List.exists_cons_of_ne_nil hm.gap_ne_nil
  have hg := hm.gap g List.mem_cons_self
  have hstop := not_isDecimal_of_isBlank hg
  -- each run ends where the next one starts
  have hnumber := getD_readKeyword hm.word (hm.digits d (by simp [hd]))
    (ds ++ (g :: gs ++ '"' :: (m.file ++ '"' :: rest)))
  rw [← List.cons_append, ← hd] at hnumber
  have htake := takeWhile_run hm.digits hstop (gs ++ '"' :: (m.file ++ '"' :: rest))
  have hdrop := dropWhile_run hm.digits hstop (gs ++ '"' :: (m.file ++ '"' :: rest))
  rw [← List.cons_append] at htake hdrop
  have hquote : trimStart (g :: gs ++ '"' :: (m.file ++ '"' :: rest)) =
      '"' :: (m.file ++ '"' :: rest) :=
    dropWhile_run hm.gap (by decide) _
  have hfile : (m.file ++ '"' :: rest).takeWhile (· != '"') = m.file :=
    takeWhile_run (fun c hc => bne_iff_ne.2 (ne_of_mem_of_not_mem hc hm.file)) (by decide) rest
  simp only [read?, trimStart_append hm.front, hnumber, htake, hdrop, hquote, hfile]
  simp [hm.digits_ne_nil, hg]

/-- **The reader of markers accepts what is written as one, and nothing else.** -/
theorem read?_eq_some_iff {line : List Char} {m : Marker} :
    read? line = some m ↔ m.Written line :=
  ⟨written_of_read?, read?_of_written⟩

/-- The number of a marker is the value of ASCII digits. -/
theorem number?_eq_some_iff {digits : List Char} {n : Nat} :
    number? digits = some n ↔ digits ≠ [] ∧ (∀ c ∈ digits, c.isDigit) ∧
      Nat.ofDigitChars 10 digits 0 = n ∧ n < countBound := by
  rw [number?, Option.filter_eq_some_iff, natOfDigits?_eq_some_iff, decide_eq_true_eq, and_assoc,
    and_assoc]

end Marker

end StyleAudit
