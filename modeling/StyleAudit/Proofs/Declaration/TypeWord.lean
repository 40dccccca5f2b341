import StyleAudit.Proofs.Declaration.Lexeme

/-!
# Type words

In front of the name of a function stand type words, each with blanks behind it and perhaps with
stars: `int`, `char *`, `std::vector<int>& `.  As a pattern a type word may have blanks on both
sides of its stars (`Declaration.typeWord`).  The recogniser goes by words of the text instead, and
takes stars as a word of their own or as the end of one.  Both accept the same texts
(`Declaration.mem_typeWords_iff`).
-/

namespace StyleAudit.Declaration

open Text
open scoped Computability

/-! ### The pattern -/

/-- Stars, perhaps none. -/
def stars := (Language.ofClass isStar)∗

/-- A type word and what stands between it and the next one: blanks, perhaps with stars. -/
def typeWord := identifier isTypeChar * blanks * stars * gap

/-- Type words, and at least one. -/
def typeWords := typeWord * typeWord∗

theorem mem_stars {t : List Char} : t ∈ stars ↔ ∀ c ∈ t, isStar c = true :=
  Language.mem_kstar_ofClass

theorem mem_typeWord {t : List Char} :
    t ∈ typeWord ↔ ∃ w ∈ identifier isTypeChar, ∃ b ∈ blanks, ∃ s ∈ stars, ∃ g ∈ gap,
      t = w ++ (b ++ (s ++ g)) := by
  simp only [typeWord, mul_assoc, Language.mem_mul]
  constructor
  · rintro ⟨w, hw, _, ⟨b, hb, _, ⟨s, hs, g, hg, rfl⟩, rfl⟩, rfl⟩
    exact ⟨w, hw, b, hb, s, hs, g, hg, rfl⟩
  · rintro ⟨w, hw, b, hb, s, hs, g, hg, rfl⟩
    exact ⟨w, hw, _, ⟨b, hb, _, ⟨s, hs, g, hg, rfl⟩, rfl⟩, rfl⟩

/-! ### Pieces -/

theorem not_isNameStart_of_isStar {c : Char} (h : isStar c = true) : isNameStart c = false := by
  rcases isStar_iff.1 h with rfl | rfl <;> rfl

theorem not_isTypeChar_of_isStar {c : Char} (h : isStar c = true) : isTypeChar c = false := by
  rcases isStar_iff.1 h with rfl | rfl <;> decide

theorem not_isBlank_of_isStar {c : Char} (h : isStar c = true) : isBlank c = false := by
  rcases isStar_iff.1 h with rfl | rfl <;> decide

theorem not_isFunctionChar_of_isStar {c : Char} (h : isStar c = true) :
    isFunctionChar c = false := by
  rcases isStar_iff.1 h with rfl | rfl <;> decide

theorem typePiece?_bare {w : List Char} (hw : w ∈ identifier isTypeChar) :
    typePiece? w = some .bare := by
  have h : readName isTypeChar w = some (w, []) :=
    readName_eq_some_iff.2 ⟨hw, by simp, by simp⟩
  simp only [typePiece?, h]

theorem typePiece?_starred {w s : List Char} (hw : w ∈ identifier isTypeChar) (hs : s ∈ stars)
    (hne : s ≠ []) : typePiece? (w ++ s) = some .starred := by
  have h : readName isTypeChar (w ++ s) = some (w, s) :=
    readName_eq_some_iff.2 ⟨hw, fun c hc =>
      not_isTypeChar_of_isStar (mem_stars.1 hs c (List.mem_of_mem_head? hc)), rfl⟩
  obtain ⟨c, s, rfl⟩ := List.exists_cons_of_ne_nil hne
  have hall : (c :: s).all isStar = true := List.all_eq_true.2 (mem_stars.1 hs)
  simp only [typePiece?, h, hall, if_true]

theorem typePiece?_stars {s : List Char} (hs : s ∈ stars) (hne : s ≠ []) :
    typePiece? s = some .stars := by
  obtain ⟨c, s, rfl⟩ := List.exists_cons_of_ne_nil hne
  have hc : isNameStart c = false :=
    not_isNameStart_of_isStar (mem_stars.1 hs c List.mem_cons_self)
  have h : readName isTypeChar (c :: s) = none := by
    rw [readName, hc]
    rfl
  have hall : (c :: s).all isStar = true := List.all_eq_true.2 (mem_stars.1 hs)
  simp only [typePiece?, h, hall, if_true]

/-- The texts of a piece. -/
def pieceTexts (piece : TypePiece) :=
  match piece with
  | .bare => identifier isTypeChar
  | .starred => identifier isTypeChar * stars
  | .stars => stars

theorem mem_of_typePiece? {t : List Char} {piece : TypePiece} (h : typePiece? t = some piece) :
    t ∈ pieceTexts piece := by
  unfold typePiece? at h
  split at h
  · rename_i w hread
    cases h
    obtain ⟨hw, -, rfl⟩ := readName_eq_some_iff.1 hread
    simpa [pieceTexts] using hw
  · rename_i w rest _ hread
    split_ifs at h with hall
    cases h
    obtain ⟨hw, -, rfl⟩ := readName_eq_some_iff.1 hread
    exact Language.append_mem_mul hw (mem_stars.2 (List.all_eq_true.1 hall))
  · split_ifs at h with hall
    cases h
    exact mem_stars.2 (List.all_eq_true.1 hall)

/-! ### Words with blanks behind them -/

/-- Words of a text that ends in a blank, each with the blanks behind it. -/
inductive Spaced : List Char → List (List Char) → Prop where
  /-- No word. -/
  | nil : Spaced [] []
  /-- A word, blanks, and what follows. -/
  | cons {w g t : List Char} {ws : List (List Char)} : OneWord w → g ∈ gap → Spaced t ws →
    Spaced (w ++ (g ++ t)) (w :: ws)

theorem Spaced.words_eq {t : List Char} {ws : List (List Char)} (h : Spaced t ws) :
    words t = ws := by
  induction h with
  | nil => rfl
  | @cons w g t ws hw hg _ ih =>
    obtain ⟨hne, hblank⟩ := mem_gap.1 hg
    obtain ⟨b, g, rfl⟩ := List.exists_cons_of_ne_nil hne
    obtain ⟨hb, hblank⟩ := List.forall_mem_cons.1 hblank
    rw [List.cons_append, hw.words_append_cons hb, words_append_of_blank hblank, ih]

theorem Spaced.not_isBlank_head? {t : List Char} {ws : List (List Char)} (h : Spaced t ws) :
    ∀ c ∈ t.head?, isBlank c = false := by
  cases h with
  | nil => simp
  | cons hw hg ht =>
    intro c hc
    rw [List.head?_append_of_ne_nil _ hw.ne_nil] at hc
    exact hw.not_blank c (List.mem_of_mem_head? hc)

/-- A text between a character that is not blank and a blank consists of words with blanks behind
them. -/
theorem exists_spaced (t : List Char) (hhead : ∀ c ∈ t.head?, isBlank c = false)
    (hlast : ∀ c ∈ t.getLast?, isBlank c = true) : ∃ ws, Spaced t ws := by
  -- the induction is on the length, since a word and its blanks are cut off at once
  induction hn : t.length using Nat.strong_induction_on generalizing t with
  | _ n ih =>
    by_cases hne : t = []
    · exact ⟨[], hne ▸ .nil⟩
    · obtain ⟨w, g, rest, rfl, hw, hg, hhead, hlast⟩ := exists_word_gap hne hhead hlast
      have hlen : rest.length < n := by
        have := List.length_pos_of_ne_nil hw.ne_nil
        simp only [List.length_append] at hn
        omega
      obtain ⟨ws, h⟩ := ih _ hlen rest hhead hlast rfl
      exact ⟨w :: ws, .cons hw hg h⟩

theorem Spaced.isBlank_getLast? {t : List Char} {ws : List (List Char)} (h : Spaced t ws) :
    ∀ c ∈ t.getLast?, isBlank c = true := by
  induction h with
  | nil => simp
  | @cons w g t ws _ hg _ ih =>
    intro c hc
    obtain ⟨hne, hblank⟩ := mem_gap.1 hg
    by_cases ht : t = []
    · subst ht
      rw [List.append_nil, List.getLast?_append_of_ne_nil _ hne] at hc
      exact hblank c (List.mem_of_getLast? hc)
    · refine ih c ?_
      rwa [← List.append_assoc, List.getLast?_append_of_ne_nil _ ht] at hc

/-! ### Pieces and pattern -/

theorem oneWord_of_mem_identifier {w : List Char} (hw : w ∈ identifier isTypeChar) : OneWord w := by
  refine ⟨ne_nil_of_mem_identifier hw, fun c hc => ?_⟩
  have htype := all_of_mem_identifier (fun c => isTypeChar_of_isWord) hw c hc
  by_contra hb
  rw [not_isTypeChar_of_isBlank (by simpa using hb)] at htype
  cases htype

theorem oneWord_of_mem_stars {s : List Char} (hs : s ∈ stars) (hne : s ≠ []) : OneWord s :=
  ⟨hne, fun c hc => not_isBlank_of_isStar (mem_stars.1 hs c hc)⟩

/-- A type word may have been in front of the pieces or not. -/
theorem areTypePieces_of_false {ws : List (List Char)} (h : areTypePieces false ws = true) :
    areTypePieces true ws = true := by
  cases ws with
  | nil => rfl
  | cons w ws =>
    rw [areTypePieces] at h ⊢
    split at h <;> simp_all

/-- A type word without stars. -/
theorem bare_mem_typeWord {w g : List Char} (hw : w ∈ identifier isTypeChar) (hg : g ∈ gap) :
    w ++ g ∈ typeWord :=
  mem_typeWord.2 ⟨w, hw, [], mem_blanks.2 (by simp), [], mem_stars.2 (by simp), g, hg, rfl⟩

/-- Pieces that are type words stand in a text of type words.  The two parts go together: what the
pieces say depends on whether a type word without stars is in front of them. -/
theorem Spaced.mem_kstar {t : List Char} {ws : List (List Char)} (h : Spaced t ws) :
    (areTypePieces false ws = true → t ∈ typeWord∗) ∧
      (areTypePieces true ws = true → ∀ w ∈ identifier isTypeChar, ∀ g ∈ gap,
        w ++ g ++ t ∈ typeWord∗) := by
  induction h with
  | nil =>
    refine ⟨fun _ => Language.nil_mem_kstar _, fun _ w hw g hg => ?_⟩
    exact Language.append_mem_kstar (bare_mem_typeWord hw hg) (Language.nil_mem_kstar _)
  | @cons w g t ws _ hg _ ih =>
    have hfalse (h : areTypePieces false (w :: ws) = true) : w ++ (g ++ t) ∈ typeWord∗ := by
      rw [areTypePieces] at h
      split at h
      · rename_i hpiece
        rw [← List.append_assoc]
        exact ih.2 h w (mem_of_typePiece? hpiece) g hg
      · rename_i hpiece
        obtain ⟨w, hw, s, hs, rfl⟩ := Language.mem_mul.1 (mem_of_typePiece? hpiece)
        have hword : w ++ s ++ g ∈ typeWord :=
          mem_typeWord.2 ⟨w, hw, [], mem_blanks.2 (by simp), s, hs, g, hg, by simp⟩
        rw [← List.append_assoc]
        exact Language.append_mem_kstar hword (ih.1 h)
      · cases h
      · cases h
    -- stars belong to the type word in front of them, anything else starts another one
    refine ⟨hfalse, fun h w₀ hw₀ g₀ hg₀ => ?_⟩
    by_cases hpiece : typePiece? w = some .stars
    · rw [areTypePieces, hpiece] at h
      have hword : w₀ ++ g₀ ++ w ++ g ∈ typeWord :=
        mem_typeWord.2 ⟨w₀, hw₀, g₀, mem_blanks.2 (mem_gap.1 hg₀).2, w,
          mem_of_typePiece? hpiece, g, hg, by simp⟩
      rw [← List.append_assoc, ← List.append_assoc]
      exact Language.append_mem_kstar hword (ih.1 (by simpa using h))
    · refine Language.append_mem_kstar (bare_mem_typeWord hw₀ hg₀) (hfalse ?_)
      rw [areTypePieces] at h ⊢
      split at h <;> simp_all

/-- A text of type words has pieces that are type words. -/
theorem exists_spaced_of_mem_kstar {t : List Char} (h : t ∈ typeWord∗) :
    ∃ ws, Spaced t ws ∧ areTypePieces false ws = true := by
  obtain ⟨parts, rfl, hparts⟩ := Language.mem_kstar.1 h
  clear h
  induction parts with
  | nil => exact ⟨[], .nil, rfl⟩
  | cons part parts ih =>
    obtain ⟨hpart, hparts⟩ := List.forall_mem_cons.1 hparts
    obtain ⟨ws, hspaced, hws⟩ := ih hparts
    obtain ⟨w, hw, b, hb, s, hs, g, hg, rfl⟩ := mem_typeWord.1 hpart
    rw [List.flatten_cons]
    have hword := oneWord_of_mem_identifier hw
    -- a type word is one piece or two: stars are a piece of their own where blanks are in front
    by_cases hs₀ : s = []
    · subst hs₀
      have hgap : b ++ g ∈ gap := by
        refine mem_gap.2 ⟨by simp [(mem_gap.1 hg).1], fun c hc => ?_⟩
        exact (List.mem_append.1 hc).elim (mem_blanks.1 hb c) ((mem_gap.1 hg).2 c)
      refine ⟨w :: ws, ?_, ?_⟩
      · simpa using Spaced.cons hword hgap hspaced
      · rw [areTypePieces, typePiece?_bare hw]
        exact areTypePieces_of_false hws
    · have hstars := oneWord_of_mem_stars hs hs₀
      by_cases hb₀ : b = []
      · subst hb₀
        have hboth : OneWord (w ++ s) :=
          ⟨by simp [hs₀], fun c hc =>
            (List.mem_append.1 hc).elim (hword.not_blank c) (hstars.not_blank c)⟩
        refine ⟨(w ++ s) :: ws, ?_, ?_⟩
        · simpa using Spaced.cons hboth hg hspaced
        · rw [areTypePieces, typePiece?_starred hw hs hs₀]
          exact hws
      · have hgap : b ∈ gap := mem_gap.2 ⟨hb₀, mem_blanks.1 hb⟩
        refine ⟨w :: s :: ws, ?_, ?_⟩
        · simpa using Spaced.cons hword hgap (Spaced.cons hstars hg hspaced)
        · rw [areTypePieces, typePiece?_bare hw]
          simp only [areTypePieces, typePiece?_stars hs hs₀, Bool.true_and, hws]

theorem exists_spaced_of_mem_typeWords {t : List Char} (h : t ∈ typeWords) :
    t ≠ [] ∧ ∃ ws, Spaced t ws ∧ areTypePieces false ws = true := by
  obtain ⟨part, hpart, rest, hrest, rfl⟩ := Language.mem_mul.1 h
  refine ⟨?_, exists_spaced_of_mem_kstar (Language.append_mem_kstar hpart hrest)⟩
  obtain ⟨w, hw, -, -, -, -, -, -, rfl⟩ := mem_typeWord.1 hpart
  simp [(oneWord_of_mem_identifier hw).ne_nil]

/-- Type words end in a blank. -/
theorem isBlank_getLast?_typeWords {t : List Char} (h : t ∈ typeWords) :
    t.getLast?.any isBlank = true := by
  obtain ⟨hne, ws, hspaced, -⟩ := exists_spaced_of_mem_typeWords h
  rw [List.getLast?_eq_some_getLast hne]
  exact hspaced.isBlank_getLast? _ (List.getLast?_eq_some_getLast hne)

/-- The recogniser of type words is right about texts that do not start with a blank. -/
theorem mem_typeWords_iff {t : List Char} :
    t ∈ typeWords ↔ (∀ c ∈ t.head?, isBlank c = false) ∧
      (t.getLast?.any isBlank = true ∧ words t ≠ []) ∧ areTypePieces false (words t) = true := by
  constructor
  · intro h
    obtain ⟨hne, ws, hspaced, hws⟩ := exists_spaced_of_mem_typeWords h
    rw [hspaced.words_eq]
    refine ⟨hspaced.not_isBlank_head?, ⟨isBlank_getLast?_typeWords h, ?_⟩, hws⟩
    rintro rfl
    cases hspaced
    exact hne rfl
  · rintro ⟨hhead, ⟨hlast, hne⟩, hws⟩
    obtain ⟨ws, hspaced⟩ := exists_spaced t hhead fun c hc => by
      rwa [Option.mem_def.1 hc] at hlast
    have hmem := hspaced.mem_kstar.1 (hspaced.words_eq ▸ hws)
    rw [← Language.one_add_self_mul_kstar_eq_kstar, Language.mem_one_add] at hmem
    refine hmem.resolve_left ?_
    rintro rfl
    exact hne rfl

/-- What stands in type words. -/
theorem class_of_mem_typeWords {t : List Char} (h : t ∈ typeWords) {c : Char} (hc : c ∈ t) :
    isTypeChar c = true ∨ isBlank c = true ∨ isStar c = true := by
  obtain ⟨part, hpart, rest, hrest, rfl⟩ := Language.mem_mul.1 h
  obtain ⟨parts, hflat, hparts⟩ :=
    Language.mem_kstar.1 (Language.append_mem_kstar hpart hrest)
  rw [hflat] at hc
  obtain ⟨part, hpart, hc⟩ := List.mem_flatten.1 hc
  obtain ⟨w, hw, b, hb, s, hs, g, hg, rfl⟩ := mem_typeWord.1 (hparts part hpart)
  simp only [List.mem_append] at hc
  rcases hc with hc | hc | hc | hc
  · exact .inl (all_of_mem_identifier (fun c => isTypeChar_of_isWord) hw c hc)
  · exact .inr (.inl (mem_blanks.1 hb c hc))
  · exact .inr (.inr (mem_stars.1 hs c hc))
  · exact .inr (.inl ((mem_gap.1 hg).2 c hc))

end StyleAudit.Declaration
