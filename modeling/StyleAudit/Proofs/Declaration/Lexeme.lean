import StyleAudit.Proofs.Declaration.Name
import StyleAudit.Proofs.Text.Grammar
import StyleAudit.Proofs.Text.Numeral

/-!
# Lexemes of declarations

The recognisers of declarations read a line from left to right: names (`readName`), words
(`readWord`) and words with blanks behind them (`readKeyword`).  Each reader is stated here by what
it cuts off, in both directions.  Names and blanks are cut off as long as they are, and only there,
since no character of the one stands in the other.
-/

namespace StyleAudit

namespace Text

theorem isWord_of_isNameStart {c : Char} (h : isNameStart c = true) : isWord c = true := by
  have hlt : c.toNat < 128 := by
    delta isNameStart Char.isAlpha Char.isUpper Char.isLower at h
    simp only [Bool.or_eq_true, Bool.and_eq_true, decide_eq_true_eq, beq_iff_eq] at h
    rcases h with (⟨h₁, h₂⟩ | ⟨h₁, h₂⟩) | rfl
    · exact lt_of_le_of_lt (UInt32.le_iff_toNat_le.1 h₂) (by decide)
    · exact lt_of_le_of_lt (UInt32.le_iff_toNat_le.1 h₂) (by decide)
    · decide
  rw [isNameStart, Bool.or_eq_true] at h
  rw [isWord, if_pos hlt, Char.isAlphanum, Bool.or_eq_true, Bool.or_eq_true]
  exact h.imp_left .inl

/-- A blank parts the words of a text. -/
theorem words_append_cons {b : Char} (hb : isBlank b = true) (front rest : List Char) :
    words (front ++ b :: rest) = words front ++ words rest := by
  suffices h : ∀ word, wordsFrom word (front ++ b :: rest) = wordsFrom word front ++ words rest from
    h []
  induction front with
  | nil =>
    intro word
    simp only [List.nil_append, wordsFrom, if_pos hb]
    split_ifs <;> rfl
  | cons c front ih =>
    intro word
    rw [List.cons_append, wordsFrom, wordsFrom]
    split_ifs
    · exact ih []
    · rw [ih [], List.cons_append]
    · exact ih (c :: word)

/-- Behind a blank, or at the start, the words are those of what is in front and of what follows. -/
theorem words_append_of_getLast? {front : List Char}
    (hfront : ∀ c ∈ front.getLast?, isBlank c = true) (rest : List Char) :
    words (front ++ rest) = words front ++ words rest := by
  rcases List.eq_nil_or_concat front with rfl | ⟨front, b, rfl⟩
  · rfl
  · have hb : isBlank b = true := hfront b (by simp)
    rw [List.concat_eq_append, List.append_assoc, List.singleton_append, words_append_cons hb,
      words_append_cons hb]
    simp [words, wordsFrom]

/-- A text between a character that is not blank and a blank starts with a word and the blanks
behind it, and what follows is such a text again. -/
theorem exists_word_gap {t : List Char} (hne : t ≠ []) (hhead : ∀ c ∈ t.head?, isBlank c = false)
    (hlast : ∀ c ∈ t.getLast?, isBlank c = true) :
    ∃ w g rest, t = w ++ (g ++ rest) ∧ OneWord w ∧ g ∈ gap ∧
      (∀ c ∈ rest.head?, isBlank c = false) ∧ ∀ c ∈ rest.getLast?, isBlank c = true := by
  have hword : ∀ c ∈ t.takeWhile (fun c => !isBlank c), isBlank c = false := fun c hc => by
    simpa using List.mem_takeWhile_imp hc
  have hbehind : ∀ c ∈ (t.dropWhile fun c => !isBlank c).head?, isBlank c = true := fun c hc => by
    simpa using head?_dropWhile_not (fun c => !isBlank c) t c hc
  have ht := List.takeWhile_append_dropWhile (p := fun c => !isBlank c) (l := t)
  generalize t.takeWhile (fun c => !isBlank c) = w at hword ht
  generalize hb : t.dropWhile (fun c => !isBlank c) = behind at hbehind ht
  subst ht
  have hw : w ≠ [] := by
    -- the first character is not blank, but what is behind the word starts with a blank
    rintro rfl
    obtain ⟨c, t, rfl⟩ := List.exists_cons_of_ne_nil hne
    have := hhead c rfl
    rw [hbehind c rfl] at this
    cases this
  have hg : behind ≠ [] := by
    rintro rfl
    rw [List.append_nil] at hlast
    have := hword _ (List.getLast_mem hw)
    rw [hlast _ (List.getLast?_eq_some_getLast hw)] at this
    cases this
  obtain ⟨b, behind, rfl⟩ := List.exists_cons_of_ne_nil hg
  refine ⟨w, b :: behind.takeWhile isBlank, behind.dropWhile isBlank, ?_, ⟨hw, hword⟩,
    mem_gap.2 ⟨List.cons_ne_nil _ _, List.forall_mem_cons.2 ⟨hbehind b rfl, fun c hc =>
      List.mem_takeWhile_imp hc⟩⟩, head?_dropWhile_not isBlank behind, fun c hc => ?_⟩
  · rw [List.cons_append, List.takeWhile_append_dropWhile]
  · have hrest : behind.dropWhile isBlank ≠ [] := by
      rintro h
      rw [h] at hc
      cases hc
    refine hlast c ?_
    rw [← List.takeWhile_append_dropWhile (p := isBlank) (l := behind), ← List.cons_append,
      ← List.append_assoc, List.getLast?_append_of_ne_nil _ hrest]
    exact hc

end Text

namespace Declaration

open Text

theorem isTypeChar_of_isWord {c : Char} (h : isWord c = true) : isTypeChar c = true := by
  simp [isTypeChar, h]

theorem isFunctionChar_of_isWord {c : Char} (h : isWord c = true) : isFunctionChar c = true := by
  simp [isFunctionChar, h]

theorem not_isTypeChar_of_isBlank {c : Char} (h : isBlank c = true) : isTypeChar c = false := by
  have hne {d : Char} (hd : isBlank d = false) : c ≠ d := by
    rintro rfl
    rw [h] at hd
    cases hd
  simp [isTypeChar, not_isWord_of_isBlank h, hne (d := ':') rfl, hne (d := '<') rfl,
    hne (d := '>') rfl]

theorem isStar_iff {c : Char} : isStar c = true ↔ c = '*' ∨ c = '&' := by
  simp [isStar]

/-! ### Names -/

/-- Where word characters are of the class, a name is of it as a whole. -/
theorem all_of_mem_identifier {p : Char → Bool} {name : List Char}
    (hp : ∀ c, isWord c = true → p c = true) (h : name ∈ identifier p) :
    ∀ c ∈ name, p c = true := by
  obtain ⟨d, u, rfl, hd, hu⟩ := mem_identifier.1 h
  exact List.forall_mem_cons.2 ⟨hp d (isWord_of_isNameStart hd), hu⟩

theorem ne_nil_of_mem_identifier {p : Char → Bool} {name : List Char} (h : name ∈ identifier p) :
    name ≠ [] := by
  obtain ⟨d, u, rfl, -⟩ := mem_identifier.1 h
  exact List.cons_ne_nil _ _

theorem not_isBlank_head?_identifier {p : Char → Bool} {name rest : List Char}
    (h : name ∈ identifier p) : ∀ c ∈ (name ++ rest).head?, isBlank c = false := by
  obtain ⟨d, u, rfl, hd, -⟩ := mem_identifier.1 h
  rintro c ⟨⟩
  by_contra hb
  have := not_isWord_of_isBlank (by simpa using hb)
  rw [isWord_of_isNameStart hd] at this
  cases this

theorem readName_eq_some_iff {p : Char → Bool} {t name rest : List Char} :
    readName p t = some (name, rest) ↔
      name ∈ identifier p ∧ (∀ c ∈ rest.head?, p c = false) ∧ t = name ++ rest := by
  rw [mem_identifier]
  constructor
  · intro h
    cases t with
    | nil => cases h
    | cons c t =>
      rw [readName] at h
      split_ifs at h with hc
      cases h
      refine ⟨⟨c, t.takeWhile p, rfl, hc, fun c hc => List.mem_takeWhile_imp hc⟩,
        head?_dropWhile_not p t, ?_⟩
      rw [List.cons_append, List.takeWhile_append_dropWhile]
  · rintro ⟨⟨c, u, rfl, hc, hu⟩, hrest, rfl⟩
    rw [List.cons_append, readName, if_pos hc, takeWhile_append_of_head hu hrest,
      dropWhile_append_of_head hu hrest]

/-! ### Words -/

theorem readWord_eq_some_iff {word : String} {t rest : List Char} :
    readWord word t = some rest ↔ t = word.toList ++ rest := by
  rw [readWord, Option.ite_none_right_eq_some, List.isPrefixOf_iff_prefix]
  constructor
  · rintro ⟨⟨rest', rfl⟩, h⟩
    rw [← String.length_toList, List.drop_left] at h
    rw [Option.some.inj h]
  · rintro rfl
    rw [← String.length_toList, List.drop_left]
    exact ⟨List.prefix_append _ _, rfl⟩

section Keyword

variable {w w' g g' rest rest' : List Char}

/-- A word without blanks ends at the first one. -/
theorem word_inj (h : w ++ (g ++ rest) = w' ++ (g' ++ rest')) (hw : ∀ c ∈ w, isBlank c = false)
    (hw' : ∀ c ∈ w', isBlank c = false) (hg : g ∈ gap) (hg' : g' ∈ gap) :
    w = w' ∧ g ++ rest = g' ++ rest' := by
  have hhead {g rest : List Char} (hg : g ∈ gap) :
      ∀ c ∈ (g ++ rest).head?, (!isBlank c) = false := by
    obtain ⟨hne, hblank⟩ := mem_gap.1 hg
    intro c hc
    rw [List.head?_append_of_ne_nil _ hne] at hc
    rw [hblank c (List.mem_of_mem_head? hc)]
    rfl
  exact append_inj_of_run_front (p := fun c => !isBlank c) h (by simpa using hw) (hhead hg)
    (by simpa using hw') (hhead hg')

/-- A word without blanks, and the blanks behind it, are cut off in one way. -/
theorem keyword_inj (h : w ++ (g ++ rest) = w' ++ (g' ++ rest')) (hw : ∀ c ∈ w, isBlank c = false)
    (hw' : ∀ c ∈ w', isBlank c = false) (hg : g ∈ gap) (hg' : g' ∈ gap)
    (hrest : ∀ c ∈ rest.head?, isBlank c = false)
    (hrest' : ∀ c ∈ rest'.head?, isBlank c = false) : w = w' ∧ rest = rest' := by
  obtain ⟨hword, hbehind⟩ := word_inj h hw hw' hg hg'
  exact ⟨hword,
    (append_inj_of_run_front hbehind (mem_gap.1 hg).2 hrest (mem_gap.1 hg').2 hrest').2⟩

end Keyword

/-- What is left behind one word, if it is there with blanks behind it. -/
def behindKeyword (t : List Char) (w : String) : Option (List Char) :=
  match readWord w t with
  | some (c :: rest) => if isBlank c then some (trimStart rest) else none
  | _ => none

theorem behindKeyword_eq_some_iff {w : String} {t rest : List Char} :
    behindKeyword t w = some rest ↔
      ∃ g ∈ gap, t = w.toList ++ (g ++ rest) ∧ ∀ c ∈ rest.head?, isBlank c = false := by
  constructor
  · intro h
    unfold behindKeyword at h
    split at h
    · rename_i c behind hword
      split_ifs at h with hc
      cases h
      refine ⟨c :: behind.takeWhile isBlank, mem_gap.2 ⟨List.cons_ne_nil _ _,
        List.forall_mem_cons.2 ⟨hc, fun c hc => List.mem_takeWhile_imp hc⟩⟩, ?_,
        head?_dropWhile_not isBlank behind⟩
      rw [readWord_eq_some_iff.1 hword, List.cons_append, trimStart,
        List.takeWhile_append_dropWhile]
    · cases h
  · rintro ⟨g, hg, rfl, hrest⟩
    obtain ⟨hne, hblank⟩ := mem_gap.1 hg
    obtain ⟨c, g, rfl⟩ := List.exists_cons_of_ne_nil hne
    obtain ⟨hc, hblank⟩ := List.forall_mem_cons.1 hblank
    rw [behindKeyword, readWord_eq_some_iff.2 rfl]
    simp only [List.cons_append, if_pos hc, trimStart, dropWhile_append_of_head hblank hrest]

/-- A reader of keywords takes one of them with all blanks behind it. -/
theorem readKeyword_eq_some_iff {ws : List String} (hws : ∀ w ∈ ws, OneWord w.toList)
    {t rest : List Char} :
    readKeyword ws t = some rest ↔ (∀ c ∈ rest.head?, isBlank c = false) ∧
      ∃ w ∈ ws, ∃ g ∈ gap, t = w.toList ++ (g ++ rest) := by
  change ws.findSome? (behindKeyword t) = some rest ↔ _
  constructor
  · intro h
    obtain ⟨w, hw, h⟩ := List.exists_of_findSome?_eq_some h
    obtain ⟨g, hg, ht, hrest⟩ := behindKeyword_eq_some_iff.1 h
    exact ⟨hrest, w, hw, g, hg, ht⟩
  · rintro ⟨hrest, w, hw, g, hg, ht⟩
    have hsome : (ws.findSome? (behindKeyword t)).isSome = true :=
      List.findSome?_isSome_iff.2
        ⟨w, hw, by rw [behindKeyword_eq_some_iff.2 ⟨g, hg, ht, hrest⟩]; rfl⟩
    obtain ⟨rest', h⟩ := Option.isSome_iff_exists.1 hsome
    obtain ⟨w', hw', h'⟩ := List.exists_of_findSome?_eq_some h
    obtain ⟨g', hg', ht', hrest'⟩ := behindKeyword_eq_some_iff.1 h'
    rw [h, (keyword_inj (ht.symm.trans ht') (hws w hw).not_blank (hws w' hw').not_blank hg hg'
      hrest hrest').2]

end Declaration

end StyleAudit
