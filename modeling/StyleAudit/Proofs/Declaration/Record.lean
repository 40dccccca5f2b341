import StyleAudit.Proofs.Declaration.Lexeme

/-!
# Declarations of types

The pattern of type declarations is an optional `typedef`, one of four keywords, a name, and an end
with optional bases.  `Declaration.MatchesRecord` holds of a text and of any way to match it, and
`declaredType` finds the name (`Declaration.declaredType_eq_some_iff`).  No other keyword stands in
front, so that the name is the one behind the first keyword of the text
(`Declaration.MatchesRecord.behindKeyword`), and the text determines which that is
(`Declaration.BehindKeyword.unique`).
-/

namespace StyleAudit.Declaration

open Text
open scoped Computability

/-! ### The pattern -/

/-- Words that start the declaration of a type. -/
def recordWords : List String := ["struct", "class", "union", "enum"]

/-- A brace or a semicolon. -/
def isTypeCloser (c : Char) : Bool := c == '\x7b' || c == ';'

/-- A brace or a semicolon, perhaps, and blanks. -/
def typeCloser := (1 + Language.ofClass isTypeCloser) * blanks

/-- Bases behind a colon. -/
def bases := Language.literal ":".toList * (Language.ofClass (!isTypeCloser ·))∗

/-- What may stand behind the name of a type. -/
def typeEnd := blanks * (1 + bases) * typeCloser

/-- The pattern of type declarations matches a text with this name. -/
def MatchesRecord (t name : List Char) : Prop :=
  name ∈ identifier isWord ∧ ∃ d ∈ 1 + Language.literal "typedef".toList * gap,
    ∃ w ∈ recordWords, ∃ g ∈ gap, ∃ e ∈ typeEnd, t = d ++ (w.toList ++ (g ++ (name ++ e)))

/-! ### The end -/

theorem mem_typeCloser {t : List Char} : t ∈ typeCloser ↔ (∀ c ∈ t, isBlank c = true) ∨
    ∃ c b, t = c :: b ∧ isTypeCloser c = true ∧ ∀ c ∈ b, isBlank c = true := by
  rw [typeCloser, Language.mem_mul]
  constructor
  · rintro ⟨o, ho, b, hb, rfl⟩
    rcases Language.mem_one_add.1 ho with rfl | ⟨c, hc, rfl⟩
    · exact .inl (mem_blanks.1 hb)
    · exact .inr ⟨c, b, rfl, hc, mem_blanks.1 hb⟩
  · rintro (hb | ⟨c, b, rfl, hc, hb⟩)
    · exact ⟨[], Language.mem_one_add.2 (.inl rfl), t, mem_blanks.2 hb, rfl⟩
    · exact ⟨[c], Language.mem_one_add.2 (.inr ⟨c, hc, rfl⟩), b, mem_blanks.2 hb, rfl⟩

theorem mem_typeEnd {t : List Char} : t ∈ typeEnd ↔ ∃ b ∈ blanks, ∃ k ∈ 1 + bases,
    ∃ e ∈ typeCloser, t = b ++ (k ++ e) := by
  simp only [typeEnd, mul_assoc, Language.mem_mul]
  constructor
  · rintro ⟨b, hb, _, ⟨k, hk, e, he, rfl⟩, rfl⟩
    exact ⟨b, hb, k, hk, e, he, rfl⟩
  · rintro ⟨b, hb, k, hk, e, he, rfl⟩
    exact ⟨b, hb, _, ⟨k, hk, e, he, rfl⟩, rfl⟩

/-- What is left behind the bases of a type. -/
def behindBases (t : List Char) : List Char :=
  match readWord ":" t with
  | some rest => rest.dropWhile (!isTypeCloser ·)
  | none => t

theorem not_isBlank_of_isTypeCloser {c : Char} (h : isTypeCloser c = true) : isBlank c = false := by
  rw [isTypeCloser, Bool.or_eq_true, beq_iff_eq, beq_iff_eq] at h
  rcases h with rfl | rfl <;> rfl

/-- What is left behind the bases does not start with a blank. -/
theorem not_isBlank_head?_behindBases {t : List Char} (h : ∀ c ∈ t.head?, isBlank c = false) :
    ∀ c ∈ (behindBases t).head?, isBlank c = false := by
  unfold behindBases
  split
  · rename_i rest _
    intro c hc
    refine not_isBlank_of_isTypeCloser ?_
    simpa using head?_dropWhile_not (!isTypeCloser ·) rest c hc
  · exact h

/-- The recogniser of what closes a declaration, with nothing in front. -/
def isClosed : List Char → Bool
  | [] => true
  | c :: rest => if isTypeCloser c then rest.all isBlank else false

theorem isTypeEnd_iff {t : List Char} :
    isTypeEnd t = true ↔ behindBases (trimStart t) ∈ typeCloser := by
  have hclass : (fun c => c != '\x7b' && c != ';') = (!isTypeCloser ·) := by
    funext c
    rw [isTypeCloser, Bool.not_or]
    rfl
  have hend : isTypeEnd t = isClosed (behindBases (trimStart t)) := by
    rw [isTypeEnd, hclass]
    rfl
  have hhead := not_isBlank_head?_behindBases (head?_dropWhile_not isBlank t)
  rw [hend, mem_typeCloser, trimStart]
  generalize behindBases (t.dropWhile isBlank) = u at hhead
  cases u with
  | nil => simp [isClosed]
  | cons c rest =>
    have hc : isBlank c = false := hhead c rfl
    simp [isClosed, hc]

/-- Bases and blanks in front of what closes the declaration can be taken off. -/
theorem behindBases_mem_typeCloser {b k e : List Char} (hb : b ∈ blanks) (hk : k ∈ 1 + bases)
    (he : e ∈ typeCloser) : behindBases (trimStart (b ++ (k ++ e))) ∈ typeCloser := by
  rcases Language.mem_one_add.1 hk with rfl | hk
  · rcases mem_typeCloser.1 he with hblank | ⟨c, b', rfl, hc, hb'⟩
    · have hnil : trimStart (b ++ ([] ++ e)) = [] := by
        rw [trimStart, List.dropWhile_eq_nil_iff]
        exact fun c hc => (List.mem_append.1 hc).elim (mem_blanks.1 hb c) (hblank c)
      rw [hnil]
      exact mem_typeCloser.2 (.inl (by simp [behindBases, readWord]))
    · have hcons : trimStart (b ++ ([] ++ c :: b')) = c :: b' :=
        dropWhile_append_of_head (mem_blanks.1 hb)
          (by simpa using not_isBlank_of_isTypeCloser hc)
      have hcolon : readWord ":" (c :: b') = none := by
        rw [isTypeCloser, Bool.or_eq_true, beq_iff_eq, beq_iff_eq] at hc
        rcases hc with rfl | rfl <;> rfl
      rw [hcons, behindBases, hcolon]
      exact he
  · obtain ⟨_, rfl, v, hv, rfl⟩ := Language.mem_mul.1 hk
    have hcolon : trimStart (b ++ (":".toList ++ v ++ e)) = ":".toList ++ (v ++ e) := by
      rw [List.append_assoc]
      exact dropWhile_append_of_head (mem_blanks.1 hb) (by simp; rfl)
    rw [hcolon, behindBases, readWord_eq_some_iff.2 rfl]
    simp only
    have hv := Language.mem_kstar_ofClass.1 hv
    rcases mem_typeCloser.1 he with hblank | ⟨c, b', rfl, hc, hb'⟩
    · have hnil : (v ++ e).dropWhile (!isTypeCloser ·) = [] := by
        rw [List.dropWhile_eq_nil_iff]
        refine fun c hc => (List.mem_append.1 hc).elim (hv c) fun hc => ?_
        by_contra hcloser
        have := not_isBlank_of_isTypeCloser (by simpa using hcloser)
        rw [hblank c hc] at this
        cases this
      rw [hnil]
      exact mem_typeCloser.2 (.inl (by simp))
    · rw [dropWhile_append_of_head hv (by simpa using hc)]
      exact he

/-- The recogniser of what ends the declaration of a type is right. -/
theorem mem_typeEnd_iff {t : List Char} : t ∈ typeEnd ↔ isTypeEnd t = true := by
  rw [mem_typeEnd, isTypeEnd_iff]
  constructor
  · rintro ⟨b, hb, k, hk, e, he, rfl⟩
    exact behindBases_mem_typeCloser hb hk he
  · intro h
    have hblanks : t.takeWhile isBlank ∈ blanks :=
      mem_blanks.2 fun c hc => List.mem_takeWhile_imp hc
    have htrim : t = t.takeWhile isBlank ++ trimStart t :=
      List.takeWhile_append_dropWhile.symm
    unfold behindBases at h
    split at h
    · rename_i rest hread
      have hbases : rest.takeWhile (!isTypeCloser ·) ∈ (Language.ofClass (!isTypeCloser ·))∗ :=
        Language.mem_kstar_ofClass.2 fun c hc => List.mem_takeWhile_imp (p := (!isTypeCloser ·)) hc
      refine ⟨_, hblanks, _, Language.mem_one_add.2 (.inr (Language.append_mem_mul rfl hbases)),
        _, h, ?_⟩
      rw [List.append_assoc, List.takeWhile_append_dropWhile, ← readWord_eq_some_iff.1 hread]
      exact htrim
    · exact ⟨_, hblanks, [], Language.mem_one_add.2 (.inl rfl), _, h, htrim⟩

/-- No character of a name starts what ends the declaration. -/
theorem not_isWord_head?_typeEnd {e : List Char} (he : e ∈ typeEnd) :
    ∀ c ∈ e.head?, isWord c = false := by
  obtain ⟨b, hb, k, hk, e, he', rfl⟩ := mem_typeEnd.1 he
  intro c hc
  rw [List.head?_append, List.head?_append, Option.mem_def, Option.or_eq_some_iff,
    Option.or_eq_some_iff] at hc
  rcases hc with hc | ⟨-, hc | ⟨-, hc⟩⟩
  · exact not_isWord_of_isBlank (mem_blanks.1 hb c (List.mem_of_mem_head? hc))
  · rcases Language.mem_one_add.1 hk with rfl | hk
    · cases hc
    · obtain ⟨_, rfl, v, -, rfl⟩ := Language.mem_mul.1 hk
      cases hc
      rfl
  · rcases mem_typeCloser.1 he' with hblank | ⟨d, b', rfl, hd, -⟩
    · exact not_isWord_of_isBlank (hblank c (List.mem_of_mem_head? hc))
    · cases hc
      rw [isTypeCloser, Bool.or_eq_true, beq_iff_eq, beq_iff_eq] at hd
      rcases hd with rfl | rfl <;> rfl

/-! ### Declarations -/

theorem oneWord_recordWords : ∀ w ∈ recordWords, OneWord w.toList := by decide

theorem oneWord_typedef : OneWord "typedef".toList := by decide

theorem readKeyword_typedef {t rest : List Char} :
    readKeyword ["typedef"] t = some rest ↔ (∀ c ∈ rest.head?, isBlank c = false) ∧
      ∃ g ∈ gap, t = "typedef".toList ++ (g ++ rest) := by
  rw [readKeyword_eq_some_iff (by simpa using oneWord_typedef)]
  simp

variable {t name : List Char}

/-- An optional `typedef` can be taken off in front of another word. -/
theorem getD_readKeyword_typedef {d g rest : List Char} {w : String}
    (hd : d ∈ 1 + Language.literal "typedef".toList * gap) (hw : w ∈ recordWords) (hg : g ∈ gap)
    (hrest : ∀ c ∈ rest.head?, isBlank c = false) (ht : t = d ++ (w.toList ++ (g ++ rest))) :
    (readKeyword ["typedef"] t).getD t = w.toList ++ (g ++ rest) := by
  have hkeyword := oneWord_recordWords w hw
  rcases Language.mem_one_add.1 hd with rfl | hd
  · rw [List.nil_append] at ht
    have hnone : readKeyword ["typedef"] t = none := by
      rw [Option.eq_none_iff_forall_ne_some]
      intro rest' h
      obtain ⟨hrest', g', hg', ht'⟩ := readKeyword_typedef.1 h
      have hword := (keyword_inj (ht.symm.trans ht') hkeyword.not_blank oneWord_typedef.not_blank hg
        hg' hrest hrest').1
      rw [String.toList_inj.1 hword] at hw
      exact absurd hw (by decide)
    rw [hnone]
    exact ht
  · obtain ⟨_, rfl, g', hg', rfl⟩ := Language.mem_mul.1 hd
    have hhead : ∀ c ∈ (w.toList ++ (g ++ rest)).head?, isBlank c = false := by
      intro c hc
      rw [List.head?_append_of_ne_nil _ hkeyword.ne_nil] at hc
      exact hkeyword.not_blank c (List.mem_of_mem_head? hc)
    rw [readKeyword_typedef.2 ⟨hhead, g', hg', by rw [ht, List.append_assoc]⟩]
    rfl

/-- **The recogniser of type declarations is right.** -/
theorem declaredType_eq_some_iff : declaredType t = some name ↔ MatchesRecord t name := by
  constructor
  · intro h
    obtain ⟨d, hd, ht⟩ : ∃ d ∈ 1 + Language.literal "typedef".toList * gap,
        t = d ++ (readKeyword ["typedef"] t).getD t := by
      rcases hread : readKeyword ["typedef"] t with _ | rest
      · exact ⟨[], Language.mem_one_add.2 (.inl rfl), rfl⟩
      · obtain ⟨-, g, hg, ht⟩ := readKeyword_typedef.1 hread
        refine ⟨_, Language.mem_one_add.2 (.inr (Language.append_mem_mul rfl hg)), ?_⟩
        rw [Option.getD_some, List.append_assoc]
        exact ht
    rw [declaredType] at h
    generalize (readKeyword ["typedef"] t).getD t = u at h ht
    split at h
    · cases h
    · rename_i rest hkeyword
      obtain ⟨-, w, hw, g, hg, rfl⟩ := (readKeyword_eq_some_iff oneWord_recordWords).1 hkeyword
      split at h
      · rename_i name' tail hread
        split_ifs at h with hend
        cases h
        obtain ⟨hname, -, rfl⟩ := readName_eq_some_iff.1 hread
        exact ⟨hname, d, hd, w, hw, g, hg, tail, mem_typeEnd_iff.2 hend, ht⟩
      · cases h
  · rintro ⟨hname, d, hd, w, hw, g, hg, e, he, ht⟩
    have hhead : ∀ c ∈ (name ++ e).head?, isBlank c = false := not_isBlank_head?_identifier hname
    have hkeyword : readKeyword recordWords (w.toList ++ (g ++ (name ++ e))) = some (name ++ e) :=
      (readKeyword_eq_some_iff oneWord_recordWords).2 ⟨hhead, w, hw, g, hg, rfl⟩
    have hread : readName isWord (name ++ e) = some (name, e) :=
      readName_eq_some_iff.2 ⟨hname, not_isWord_head?_typeEnd he, rfl⟩
    rw [recordWords] at hkeyword
    rw [declaredType, getD_readKeyword_typedef hd hw hg hhead ht]
    simp only [hkeyword, hread, mem_typeEnd_iff.1 he, if_true]

/-! ### The first keyword -/

/-- In the text, the name stands behind `before` and a keyword, and no word of `before` is one; it
is as long as can be. -/
structure BehindKeyword (t before name : List Char) : Prop where
  /-- Where the name stands. -/
  stands : ∃ w ∈ recordWords, ∃ g ∈ gap, ∃ behind,
    t = before ++ (w.toList ++ (g ++ (name ++ behind))) ∧ ∀ c ∈ behind.head?, isWord c = false
  /-- The keyword starts a word. -/
  bounded : ∀ c ∈ before.getLast?, isBlank c = true
  /-- It is the first one. -/
  first : ∀ w ∈ words before, String.ofList w ∉ recordWords
  /-- The name starts as names do. -/
  mem : name ∈ identifier isWord

/-- The name of a declared type stands behind the first keyword, with nothing in front but perhaps
`typedef`. -/
theorem MatchesRecord.behindKeyword (h : MatchesRecord t name) :
    ∃ before ∈ 1 + Language.literal "typedef".toList * gap, BehindKeyword t before name := by
  obtain ⟨hname, d, hd, w, hw, g, hg, e, he, ht⟩ := h
  have hstands : ∃ w ∈ recordWords, ∃ g ∈ gap, ∃ behind,
      t = d ++ (w.toList ++ (g ++ (name ++ behind))) ∧ ∀ c ∈ behind.head?, isWord c = false :=
    ⟨w, hw, g, hg, e, ht, not_isWord_head?_typeEnd he⟩
  refine ⟨d, hd, hstands, ?_, ?_, hname⟩
  · intro c hc
    rcases Language.mem_one_add.1 hd with rfl | hd
    · cases hc
    · obtain ⟨_, rfl, g', hg', rfl⟩ := Language.mem_mul.1 hd
      obtain ⟨hne, hblank⟩ := mem_gap.1 hg'
      rw [List.getLast?_append_of_ne_nil _ hne] at hc
      exact hblank c (List.mem_of_getLast? hc)
  · intro w' hw'
    rcases Language.mem_one_add.1 hd with rfl | hd
    · cases hw'
    · obtain ⟨_, rfl, g', hg', rfl⟩ := Language.mem_mul.1 hd
      obtain ⟨hne, hblank⟩ := mem_gap.1 hg'
      obtain ⟨b, g', rfl⟩ := List.exists_cons_of_ne_nil hne
      obtain ⟨hb, hblank⟩ := List.forall_mem_cons.1 hblank
      have hwords : words g' = [] := by
        simpa [words, wordsFrom] using words_append_of_blank hblank []
      rw [oneWord_typedef.words_append_cons hb, hwords, List.mem_singleton] at hw'
      rw [hw', String.ofList_toList]
      decide

variable {before before' name' : List Char}

/-- A first keyword is not behind another one. -/
theorem BehindKeyword.length_le (h : BehindKeyword t before name)
    (h' : BehindKeyword t before' name') : before'.length ≤ before.length := by
  by_contra hlt
  obtain ⟨w, hw, g, hg, behind, ht, -⟩ := h.stands
  obtain ⟨w', -, g', -, behind', ht', -⟩ := h'.stands
  rcases List.append_eq_append_iff.1 (ht.symm.trans ht') with ⟨a, rfl, ha⟩ | ⟨a, rfl, -⟩
  · have hword := oneWord_recordWords _ hw
    have hne : a ≠ [] := by
      rintro rfl
      simp at hlt
    have hhead : ∀ c ∈ a.head?, isBlank c = false := by
      intro c hc
      have hc : c ∈ (w.toList ++ (g ++ (name ++ behind))).head? := by
        rwa [ha, List.head?_append_of_ne_nil _ hne]
      rw [List.head?_append_of_ne_nil _ hword.ne_nil] at hc
      exact hword.not_blank c (List.mem_of_mem_head? hc)
    have hlast : ∀ c ∈ a.getLast?, isBlank c = true := by
      intro c hc
      refine h'.bounded c ?_
      rwa [List.getLast?_append_of_ne_nil _ hne]
    -- what stands between the two starts with the first keyword, which is then a word in front
    obtain ⟨u, k, rest, rfl, hu, hk, -⟩ := exists_word_gap hne hhead hlast
    obtain ⟨b, k, rfl⟩ := List.exists_cons_of_ne_nil (mem_gap.1 hk).1
    obtain ⟨hb, -⟩ := List.forall_mem_cons.1 (mem_gap.1 hk).2
    have hwu : w.toList = u := by
      rw [List.append_assoc, List.append_assoc] at ha
      exact (word_inj ha hword.not_blank hu.not_blank hg hk).1
    have hmem : w.toList ∈ words (before ++ (u ++ (b :: k ++ rest))) := by
      rw [words_append_of_getLast? h.bounded, List.cons_append, hu.words_append_cons hb, hwu]
      simp
    refine h'.first _ hmem ?_
    rwa [String.ofList_toList]
  · simp at hlt

/-- **The text determines the name behind its first keyword.** -/
theorem BehindKeyword.unique (h : BehindKeyword t before name)
    (h' : BehindKeyword t before' name') : before = before' ∧ name = name' := by
  have hlen := le_antisymm (h'.length_le h) (h.length_le h')
  obtain ⟨w, hw, g, hg, behind, ht, hbehind⟩ := h.stands
  obtain ⟨w', hw', g', hg', behind', ht', hbehind'⟩ := h'.stands
  obtain ⟨hbefore, hrest⟩ := List.append_inj (ht.symm.trans ht') hlen
  have hname := (keyword_inj hrest (oneWord_recordWords w hw).not_blank
    (oneWord_recordWords w' hw').not_blank hg hg' (not_isBlank_head?_identifier h.mem)
    (not_isBlank_head?_identifier h'.mem)).2
  have hchars {name : List Char} (h : name ∈ identifier isWord) : ∀ c ∈ name, isWord c = true :=
    all_of_mem_identifier (fun c hc => hc) h
  exact ⟨hbefore, (append_inj_of_run_front hname (hchars h.mem) hbehind (hchars h'.mem)
    hbehind').1⟩

end StyleAudit.Declaration
