import StyleAudit.Proofs.Declaration.TypeWord

/-!
# Signatures

The pattern of function definitions has type words, a name, parameters and an end, and leaves open
where each of them stops: a type word may have blanks on both sides of its stars, the parameters may
hold any parenthesis, and the end is optional.  `Declaration.MatchesFunction` holds of a text and of
any way to match it.  There is one way at most (`Declaration.MatchesFunction.unique`), and
`definedFunction` finds it (`Declaration.definedFunction_eq_some_iff`): the types end at the last
blank before the name, the name stands before the first parenthesis, and the parameters end at the
last one.
-/

namespace StyleAudit.Declaration

open Text
open scoped Computability

/-! ### The pattern -/

/-- A brace, perhaps, and blanks. -/
def braceEnd := (1 + Language.literal ['\x7b']) * blanks

/-- What may stand behind the parenthesis that closes the parameters. -/
def signatureEnd := blanks * (1 + Language.literal "const".toList * blanks) * braceEnd

/-- Parameters without the parenthesis that opens them, and what stands behind them. -/
def parameters := (Language.ofClass (· != ';'))∗ * Language.literal [')'] * signatureEnd

/-- The pattern of function definitions matches a text with these types and this name. -/
def MatchesFunction (t types name : List Char) : Prop :=
  types ∈ typeWords ∧ name ∈ identifier isFunctionChar ∧
    ∃ s ∈ stars, ∃ g ∈ blanks, ∃ rest ∈ parameters, t = types ++ (s ++ (name ++ (g ++ '(' :: rest)))

/-! ### The head of a definition -/

theorem not_isFunctionChar_of_isBlank {c : Char} (h : isBlank c = true) :
    isFunctionChar c = false := by
  have hne {d : Char} (hd : isBlank d = false) : c ≠ d := by
    rintro rfl
    rw [h] at hd
    cases hd
  simp [isFunctionChar, not_isWord_of_isBlank h, hne (d := ':') rfl, hne (d := '~') rfl]

/-- Types that end in a blank, a name without blanks, and stars between them are told apart. -/
theorem splitHead_append {types s name g : List Char} (htypes : types.getLast?.any isBlank = true)
    (hs : s ∈ stars) (hne : name ≠ []) (hname : ∀ c ∈ name, isFunctionChar c = true)
    (hg : g ∈ blanks) : splitHead (types ++ (s ++ (name ++ g))) = (types, name) := by
  have hlast : ∀ c ∈ types.reverse.head?, isBlank c = true := by
    intro c hc
    rw [List.head?_reverse] at hc
    rwa [Option.mem_def.1 hc] at htypes
  have hname' : ∀ c ∈ (name.reverse ++ (s.reverse ++ types.reverse)).head?, isBlank c = false := by
    intro c hc
    rw [List.head?_append_of_ne_nil _ (by simpa using hne)] at hc
    have hc := hname c (List.mem_reverse.1 (List.mem_of_mem_head? hc))
    by_contra hb
    rw [not_isFunctionChar_of_isBlank (by simpa using hb)] at hc
    cases hc
  have hstars : ∀ c ∈ (s.reverse ++ types.reverse).head?, isFunctionChar c = false := by
    intro c hc
    rw [List.head?_append, Option.mem_def, Option.or_eq_some_iff] at hc
    rcases hc with hc | ⟨-, hc⟩
    · exact not_isFunctionChar_of_isStar
        (mem_stars.1 hs c (List.mem_reverse.1 (List.mem_of_mem_head? hc)))
    · exact not_isFunctionChar_of_isBlank (hlast c hc)
  have hrev : (types ++ (s ++ (name ++ g))).reverse =
      g.reverse ++ (name.reverse ++ (s.reverse ++ types.reverse)) := by
    simp
  have hr : (trimEnd (types ++ (s ++ (name ++ g)))).reverse =
      name.reverse ++ (s.reverse ++ types.reverse) := by
    rw [trimEnd, List.reverse_reverse, hrev]
    exact dropWhile_append_of_head (by simpa using mem_blanks.1 hg) hname'
  have hfun : ∀ c ∈ name.reverse, isFunctionChar c = true := by simpa using hname
  have hrun : ∀ c ∈ s.reverse, isStar c = true := by simpa using mem_stars.1 hs
  have hstar : ∀ c ∈ types.reverse.head?, isStar c = false := by
    intro c hc
    by_contra hstar
    have := hlast c hc
    rw [not_isBlank_of_isStar (by simpa using hstar)] at this
    cases this
  rw [splitHead, hr]
  simp only [takeWhile_append_of_head hfun hstars, dropWhile_append_of_head hfun hstars,
    dropWhile_append_of_head hrun hstar, List.reverse_reverse]

/-- The types, the name and what is dropped between and behind them make up the head. -/
theorem exists_splitHead (head : List Char) :
    (∀ c ∈ (splitHead head).2, isFunctionChar c = true) ∧ ∃ s ∈ stars, ∃ g ∈ blanks,
      head = (splitHead head).1 ++ (s ++ ((splitHead head).2 ++ g)) := by
  have hrun (p : Char → Bool) (r : List Char) : ∀ c ∈ (r.takeWhile p).reverse, p c = true :=
    fun c hc => List.mem_takeWhile_imp (List.mem_reverse.1 hc)
  have hcut (p : Char → Bool) (r : List Char) :
      r.reverse = (r.dropWhile p).reverse ++ (r.takeWhile p).reverse := by
    rw [← List.reverse_append, List.takeWhile_append_dropWhile]
  -- from the back: blanks, the name, the stars
  set r := head.reverse.dropWhile isBlank with hr
  have hsplit : splitHead head = (((r.dropWhile isFunctionChar).dropWhile isStar).reverse,
      (r.takeWhile isFunctionChar).reverse) := by
    simp only [splitHead, trimEnd, List.reverse_reverse, hr]
  rw [hsplit]
  refine ⟨hrun isFunctionChar r, ((r.dropWhile isFunctionChar).takeWhile isStar).reverse,
    mem_stars.2 (hrun isStar _), (head.reverse.takeWhile isBlank).reverse,
    mem_blanks.2 (hrun isBlank _), ?_⟩
  calc head = r.reverse ++ (head.reverse.takeWhile isBlank).reverse := by
        rw [hr, ← hcut, List.reverse_reverse]
    _ = _ := by rw [hcut isFunctionChar r, hcut isStar (r.dropWhile isFunctionChar),
        List.append_assoc, List.append_assoc]

/-! ### Parameters -/

theorem mem_signatureEnd {t : List Char} :
    t ∈ signatureEnd ↔ ∃ b ∈ blanks, ∃ c ∈ 1 + Language.literal "const".toList * blanks,
      ∃ e ∈ braceEnd, t = b ++ (c ++ e) := by
  simp only [signatureEnd, mul_assoc, Language.mem_mul]
  constructor
  · rintro ⟨b, hb, _, ⟨c, hc, e, he, rfl⟩, rfl⟩
    exact ⟨b, hb, c, hc, e, he, rfl⟩
  · rintro ⟨b, hb, c, hc, e, he, rfl⟩
    exact ⟨b, hb, _, ⟨c, hc, e, he, rfl⟩, rfl⟩

theorem mem_braceEnd {t : List Char} : t ∈ braceEnd ↔ (∀ c ∈ t, isBlank c = true) ∨
    ∃ b, t = '\x7b' :: b ∧ ∀ c ∈ b, isBlank c = true := by
  rw [braceEnd, Language.mem_mul]
  constructor
  · rintro ⟨o, ho, b, hb, rfl⟩
    rcases Language.mem_one_add.1 ho with rfl | rfl
    · exact .inl (mem_blanks.1 hb)
    · exact .inr ⟨b, rfl, mem_blanks.1 hb⟩
  · rintro (hb | ⟨b, rfl, hb⟩)
    · exact ⟨[], Language.mem_one_add.2 (.inl rfl), t, mem_blanks.2 hb, rfl⟩
    · exact ⟨['\x7b'], Language.mem_one_add.2 (.inr rfl), b, mem_blanks.2 hb, rfl⟩

theorem mem_braceEnd_iff {t : List Char} :
    t ∈ braceEnd ↔ ((readWord "\x7b" t).getD t).all isBlank = true := by
  rw [mem_braceEnd]
  constructor
  · rintro (hb | ⟨b, rfl, hb⟩)
    · have hnone : readWord "\x7b" t = none := by
        rw [Option.eq_none_iff_forall_ne_some]
        intro rest h
        have := hb '\x7b' (readWord_eq_some_iff.1 h ▸ List.mem_cons_self)
        cases this
      rw [hnone]
      exact List.all_eq_true.2 hb
    · have hsome : readWord "\x7b" ('\x7b' :: b) = some b := readWord_eq_some_iff.2 rfl
      rw [hsome]
      exact List.all_eq_true.2 hb
  · intro h
    rcases hread : readWord "\x7b" t with _ | rest
    · rw [hread, Option.getD_none, List.all_eq_true] at h
      exact .inl h
    · rw [hread, Option.getD_some, List.all_eq_true] at h
      exact .inr ⟨rest, readWord_eq_some_iff.1 hread, h⟩

/-- Blanks in front of an optional brace can be taken off, and what is left does not start with
`const`. -/
theorem trimStart_mem_braceEnd {b e : List Char} (hb : b ∈ blanks) (he : e ∈ braceEnd) :
    trimStart (b ++ e) ∈ braceEnd ∧ readWord "const" (trimStart (b ++ e)) = none := by
  rcases mem_braceEnd.1 he with hblank | ⟨b', rfl, hb'⟩
  · have hnil : trimStart (b ++ e) = [] := by
      rw [trimStart, List.dropWhile_eq_nil_iff]
      exact fun c hc => (List.mem_append.1 hc).elim (mem_blanks.1 hb c) (hblank c)
    rw [hnil]
    exact ⟨mem_braceEnd.2 (.inl (by simp)), rfl⟩
  · have hcons : trimStart (b ++ '\x7b' :: b') = '\x7b' :: b' :=
      dropWhile_append_of_head (mem_blanks.1 hb) (by simp; rfl)
    rw [hcons]
    exact ⟨he, rfl⟩

/-- The recogniser of what ends a definition is right. -/
theorem mem_signatureEnd_iff {t : List Char} : t ∈ signatureEnd ↔ isSignatureEnd t = true := by
  have htrim (t : List Char) : t = t.takeWhile isBlank ++ trimStart t :=
    List.takeWhile_append_dropWhile.symm
  have hblanks (t : List Char) : t.takeWhile isBlank ∈ blanks :=
    mem_blanks.2 fun c hc => List.mem_takeWhile_imp hc
  have hend : isSignatureEnd t = true ↔
      ((readWord "const" (trimStart t)).map trimStart).getD (trimStart t) ∈ braceEnd :=
    mem_braceEnd_iff.symm
  rw [mem_signatureEnd, hend]
  constructor
  · rintro ⟨b, hb, c, hc, e, he, rfl⟩
    rcases Language.mem_one_add.1 hc with rfl | hc
    · obtain ⟨hmem, hnone⟩ := trimStart_mem_braceEnd hb he
      rw [List.nil_append, hnone]
      exact hmem
    · obtain ⟨_, rfl, b', hb', rfl⟩ := Language.mem_mul.1 hc
      have hconst : trimStart (b ++ ("const".toList ++ b' ++ e)) = "const".toList ++ (b' ++ e) := by
        rw [List.append_assoc]
        exact dropWhile_append_of_head (mem_blanks.1 hb) (by simp; rfl)
      rw [hconst, readWord_eq_some_iff.2 rfl]
      exact (trimStart_mem_braceEnd hb' he).1
  · intro h
    rcases hread : readWord "const" (trimStart t) with _ | rest
    · rw [hread] at h
      exact ⟨_, hblanks t, [], Language.mem_one_add.2 (.inl rfl), _, h, htrim t⟩
    · rw [hread] at h
      refine ⟨_, hblanks t, _, Language.mem_one_add.2 (.inr (Language.append_mem_mul rfl
        (hblanks rest))), _, h, ?_⟩
      conv_lhs => rw [htrim t, readWord_eq_some_iff.1 hread, htrim rest]
      rw [List.append_assoc]
      rfl

/-- What ends a definition has neither semicolon nor parenthesis. -/
theorem not_mem_signatureEnd {t : List Char} (h : t ∈ signatureEnd) {c : Char}
    (hc : c = ';' ∨ c = ')') : c ∉ t := by
  have hblank : isBlank c = false := by rcases hc with rfl | rfl <;> rfl
  have hblanks {b : List Char} (hb : ∀ c ∈ b, isBlank c = true) : c ∉ b := fun hmem => by
    rw [hb c hmem] at hblank
    cases hblank
  have hbrace : c ≠ '\x7b' := by rcases hc with rfl | rfl <;> decide
  have hword : c ∉ "const".toList := by rcases hc with rfl | rfl <;> decide
  obtain ⟨b, hb, k, hk, e, he, rfl⟩ := mem_signatureEnd.1 h
  simp only [List.mem_append, not_or]
  refine ⟨hblanks (mem_blanks.1 hb), ?_, ?_⟩
  · rcases Language.mem_one_add.1 hk with rfl | hk
    · exact List.not_mem_nil
    · obtain ⟨_, rfl, b', hb', rfl⟩ := Language.mem_mul.1 hk
      simpa only [List.mem_append, not_or] using ⟨hword, hblanks (mem_blanks.1 hb')⟩
  · rcases mem_braceEnd.1 he with hb' | ⟨b', rfl, hb'⟩
    · exact hblanks hb'
    · simpa only [List.mem_cons, not_or] using ⟨hbrace, hblanks hb'⟩

/-- The recogniser of parameters is right: they end at the last closing parenthesis. -/
theorem mem_parameters_iff {t : List Char} : t ∈ parameters ↔ closesSignature t = true := by
  rw [closesSignature, Bool.and_eq_true, Bool.and_eq_true, ← mem_signatureEnd_iff]
  constructor
  · intro h
    obtain ⟨_, ⟨p, hp, _, rfl, rfl⟩, e, he, rfl⟩ := h
    have hpar : ∀ c ∈ e.reverse, (c != ')') = true := fun c hc => bne_iff_ne.2 fun heq =>
      not_mem_signatureEnd he (.inr heq) (List.mem_reverse.1 hc)
    have hrev : (p ++ [')'] ++ e).reverse = e.reverse ++ ')' :: p.reverse := by simp
    refine ⟨⟨?_, by simp⟩, ?_⟩
    · have hp : ';' ∉ p := fun hmem => by simpa using Language.mem_kstar_ofClass.1 hp _ hmem
      simpa using ⟨hp, not_mem_signatureEnd he (.inl rfl)⟩
    · rw [hrev, takeWhile_append_of_head hpar (by simp), List.reverse_reverse]
      exact he
  · rintro ⟨⟨hsemi, hpar⟩, he⟩
    -- the last closing parenthesis is the first one from the back
    obtain ⟨p, -, hp⟩ := exists_dropWhile_ne (List.mem_reverse.2 (List.contains_iff_mem.1 hpar))
    generalize t.reverse.takeWhile (· != ')') = e at he hp
    have ht : t = p.reverse ++ [')'] ++ e.reverse := by
      rw [← List.reverse_inj, hp]
      simp
    subst ht
    have hsemi : ';' ∉ p.reverse ++ [')'] ++ e.reverse := by simpa using hsemi
    have hmem : ∀ c ∈ p.reverse, (c != ';') = true := fun c hc => bne_iff_ne.2 fun heq =>
      hsemi (List.mem_append_left _ (List.mem_append_left _ (heq ▸ hc)))
    exact Language.append_mem_mul
      (Language.append_mem_mul (Language.mem_kstar_ofClass.2 hmem) rfl) he

/-! ### Definitions -/

variable {t types name : List Char}

/-- Where a definition is matched, the head ends at the first parenthesis. -/
theorem MatchesFunction.cut (h : MatchesFunction t types name) :
    ∃ head rest, t = head ++ '(' :: rest ∧ '(' ∉ head ∧ ';' ∉ head ∧ rest ∈ parameters ∧
      ∃ s ∈ stars, ∃ g ∈ blanks, head = types ++ (s ++ (name ++ g)) := by
  obtain ⟨htypes, hname, s, hs, g, hg, rest, hrest, rfl⟩ := h
  have hhead {c : Char} (hc : c = '(' ∨ c = ';') : c ∉ types ++ (s ++ (name ++ g)) := by
    have htype : isTypeChar c = false := by rcases hc with rfl | rfl <;> decide
    have hfun : isFunctionChar c = false := by rcases hc with rfl | rfl <;> decide
    have hstar : isStar c = false := by rcases hc with rfl | rfl <;> decide
    have hblank : isBlank c = false := by rcases hc with rfl | rfl <;> decide
    have hne {p : Char → Bool} {u : List Char} (hc : p c = false) (hu : ∀ c ∈ u, p c = true) :
        c ∉ u := fun hmem => by
      rw [hu c hmem] at hc
      cases hc
    simp only [List.mem_append, not_or]
    refine ⟨fun hmem => ?_, hne hstar (mem_stars.1 hs), hne hfun ?_, hne hblank (mem_blanks.1 hg)⟩
    · have := class_of_mem_typeWords htypes hmem
      simp [htype, hblank, hstar] at this
    · exact all_of_mem_identifier (fun c => isFunctionChar_of_isWord) hname
  exact ⟨types ++ (s ++ (name ++ g)), rest, by simp, hhead (.inl rfl), hhead (.inr rfl), hrest,
    s, hs, g, hg, rfl⟩

/-- A text is cut at its first parenthesis. -/
theorem takeWhile_parenthesis {head : List Char} (h : '(' ∉ head) (rest : List Char) :
    (head ++ '(' :: rest).takeWhile (· != '(') = head ∧
      (head ++ '(' :: rest).dropWhile (· != '(') = '(' :: rest := by
  have hrun : ∀ c ∈ head, (c != '(') = true := fun c hc => bne_iff_ne.2 fun heq => h (heq ▸ hc)
  exact ⟨takeWhile_append_of_head hrun (by simp), dropWhile_append_of_head hrun (by simp)⟩

/-- The types and the name are what `splitHead` cuts off the head. -/
theorem MatchesFunction.splitHead_eq (h : MatchesFunction t types name) :
    splitHead (t.takeWhile (· != '(')) = (types, name) := by
  obtain ⟨head, rest, rfl, hpar, -, -, s, hs, g, hg, rfl⟩ := h.cut
  obtain ⟨htypes, hname, -⟩ := h
  rw [(takeWhile_parenthesis hpar _).1]
  exact splitHead_append (isBlank_getLast?_typeWords htypes) hs (ne_nil_of_mem_identifier hname)
    (all_of_mem_identifier (fun c => isFunctionChar_of_isWord) hname) hg

/-- **The pattern of function definitions matches a text in one way at most**, as far as its types
and its name go. -/
theorem MatchesFunction.unique {types' name' : List Char} (h : MatchesFunction t types name)
    (h' : MatchesFunction t types' name') : types = types' ∧ name = name' :=
  Prod.mk.inj (h.splitHead_eq.symm.trans h'.splitHead_eq)

theorem nameOfHead_eq_some_iff {head : List Char} :
    nameOfHead head = some name ↔ ∃ types, splitHead head = (types, name) ∧
      name.head?.any isNameStart = true ∧ (types.getLast?.any isBlank = true ∧ words types ≠ []) ∧
        areTypePieces false (words types) = true ∧ isStatementWord (firstWord types) = false ∧
          isStatementWord name = false := by
  rcases hsplit : splitHead head with ⟨types, name'⟩
  simp only [nameOfHead, hsplit, Option.ite_none_right_eq_some, Option.some.injEq, Prod.mk.injEq]
  constructor
  · rintro ⟨h, rfl⟩
    refine ⟨types, ⟨rfl, rfl⟩, ?_⟩
    simpa [and_assoc] using h
  · rintro ⟨_, ⟨rfl, rfl⟩, h⟩
    refine ⟨?_, rfl⟩
    simpa [and_assoc] using h

/-- **The recogniser of function definitions is right**: it finds a name where the pattern matches,
statement words apart. -/
theorem definedFunction_eq_some_iff (hhead : ∀ c ∈ t.head?, isBlank c = false) :
    definedFunction t = some name ↔ ∃ types, MatchesFunction t types name ∧
      isStatementWord (firstWord types) = false ∧ isStatementWord name = false := by
  constructor
  · intro h
    rw [definedFunction] at h
    split at h
    · cases h
    · rename_i c tail hdrop
      split_ifs at h with hclose
      obtain ⟨types, hsplit, hstart, hends, hpieces, hfirst, hname⟩ := nameOfHead_eq_some_iff.1 h
      obtain ⟨hchars, s, hs, g, hg, hcut⟩ := exists_splitHead (t.takeWhile (· != '('))
      rw [hsplit] at hchars hcut
      have hc : c = '(' := by simpa using head?_dropWhile_not (· != '(') t c (hdrop ▸ rfl)
      have ht : t = types ++ (s ++ (name ++ (g ++ '(' :: tail))) := by
        rw [← List.takeWhile_append_dropWhile (p := (· != '(')) (l := t), hdrop, hcut, hc]
        simp
      have htypes : types ∈ typeWords := by
        refine mem_typeWords_iff.2 ⟨fun c hc => hhead c ?_, hends, hpieces⟩
        have hne : types ≠ [] := fun hnil => hends.2 (hnil ▸ rfl)
        rwa [ht, List.head?_append_of_ne_nil _ hne]
      have hname' : name ∈ identifier isFunctionChar := by
        cases name with
        | nil => cases hstart
        | cons d u => exact mem_identifier.2 ⟨d, u, rfl, hstart, (List.forall_mem_cons.1 hchars).2⟩
      exact ⟨types, ⟨htypes, hname', s, hs, g, hg, tail, mem_parameters_iff.2 hclose, ht⟩, hfirst,
        hname⟩
  · rintro ⟨types, h, hfirst, hname⟩
    obtain ⟨head, rest, rfl, hpar, -, hrest, -⟩ := h.cut
    have hsplit := h.splitHead_eq
    obtain ⟨htake, hdrop⟩ := takeWhile_parenthesis hpar rest
    rw [definedFunction, hdrop]
    simp only [mem_parameters_iff.1 hrest, if_true]
    refine nameOfHead_eq_some_iff.2 ⟨types, hsplit, ?_, ?_⟩
    · obtain ⟨c, u, rfl, hc, -⟩ := mem_identifier.1 h.2.1
      exact hc
    · obtain ⟨-, hends, hpieces⟩ := mem_typeWords_iff.1 h.1
      exact ⟨hends, hpieces, hfirst, hname⟩

end StyleAudit.Declaration
