import StyleAudit.Proofs.Declaration.Lexeme

/-!
# What stands behind the name of a variable

Behind the name of a variable come the bounds of an array, an initialiser, further names, the
semicolon and a comment, all but the semicolon optional.  The recogniser reads bounds character by
character and takes the initialiser and further names together, as what stands up to the semicolon;
it accepts what the pattern has (`Declaration.mem_variableEnd_iff`).  All that matters for the name
is how this starts (`Declaration.exists_stop`).
-/

namespace StyleAudit.Declaration

open Text
open scoped Computability

/-! ### The pattern -/

/-- The bounds of an array. -/
def bound :=
  Language.literal ['['] * (Language.ofClass (· != ']'))∗ * Language.literal [']'] * blanks

/-- What may stand behind a sign up to the semicolon. -/
def upToSemicolon := (Language.ofClass (· != ';'))∗

/-- An initialiser, and further names. -/
def initialiser := (1 + Language.literal ['='] * upToSemicolon) *
  (1 + Language.literal [','] * upToSemicolon)

/-- What may follow the semicolon. -/
def declarationEnd := blanks * (1 + Language.literal ['/', '/'] * (Language.ofClass (· != '\n'))∗)

/-- What may stand behind the name of a variable. -/
def variableEnd := blanks * bound∗ * initialiser * Language.literal [';'] * declarationEnd

/-! ### Initialiser and comment -/

theorem mem_upToSemicolon {t : List Char} : t ∈ upToSemicolon ↔ ';' ∉ t := by
  rw [upToSemicolon, Language.mem_kstar_ofClass]
  constructor
  · intro h hmem
    simpa using h ';' hmem
  · intro h c hc
    exact bne_iff_ne.2 fun heq => h (heq ▸ hc)

/-- The second sign may stand behind the first, and so what is behind it is anything but a
semicolon. -/
theorem mem_initialiser {t : List Char} :
    t ∈ initialiser ↔ t = [] ∨ ∃ c u, t = c :: u ∧ (c = '=' ∨ c = ',') ∧ ';' ∉ u := by
  rw [initialiser, Language.mem_mul]
  constructor
  · rintro ⟨a, ha, b, hb, rfl⟩
    have hsemi : ';' ∉ b := by
      rcases Language.mem_one_add.1 hb with rfl | hb
      · exact List.not_mem_nil
      · obtain ⟨_, rfl, u, hu, rfl⟩ := Language.mem_mul.1 hb
        simpa using mem_upToSemicolon.1 hu
    rcases Language.mem_one_add.1 ha with rfl | ha
    · rcases Language.mem_one_add.1 hb with rfl | hb
      · exact .inl rfl
      · obtain ⟨_, rfl, u, hu, rfl⟩ := Language.mem_mul.1 hb
        exact .inr ⟨',', u, rfl, .inr rfl, mem_upToSemicolon.1 hu⟩
    · obtain ⟨_, rfl, u, hu, rfl⟩ := Language.mem_mul.1 ha
      exact .inr ⟨'=', u ++ b, rfl, .inl rfl, by simpa using ⟨mem_upToSemicolon.1 hu, hsemi⟩⟩
  · rintro (rfl | ⟨c, u, rfl, rfl | rfl, hu⟩)
    · exact ⟨[], Language.mem_one_add.2 (.inl rfl), [], Language.mem_one_add.2 (.inl rfl), rfl⟩
    · exact ⟨_, Language.mem_one_add.2
        (.inr (Language.append_mem_mul rfl (mem_upToSemicolon.2 hu))), [],
        Language.mem_one_add.2 (.inl rfl), by simp⟩
    · exact ⟨[], Language.mem_one_add.2 (.inl rfl), _, Language.mem_one_add.2
        (.inr (Language.append_mem_mul rfl (mem_upToSemicolon.2 hu))), by simp⟩

/-- The recogniser of what follows the semicolon is right. -/
theorem mem_declarationEnd_iff {t : List Char} :
    t ∈ declarationEnd ↔ isDeclarationEnd t = true := by
  rw [declarationEnd, Language.mem_mul]
  constructor
  · rintro ⟨b, hb, k, hk, rfl⟩
    rw [isDeclarationEnd]
    rcases Language.mem_one_add.1 hk with rfl | hk
    · have hnil : trimStart (b ++ []) = [] := by
        rw [List.append_nil, trimStart, List.dropWhile_eq_nil_iff]
        exact mem_blanks.1 hb
      rw [hnil]
      rfl
    · obtain ⟨_, rfl, u, hu, rfl⟩ := Language.mem_mul.1 hk
      have htrim : trimStart (b ++ (['/', '/'] ++ u)) = ['/', '/'] ++ u :=
        dropWhile_append_of_head (mem_blanks.1 hb) (by simp; rfl)
      have hline : '\n' ∉ u := fun hmem => by
        simpa using Language.mem_kstar_ofClass.1 hu '\n' hmem
      rw [htrim]
      simp [hline]
  · intro h
    have hblanks : t.takeWhile isBlank ∈ blanks :=
      mem_blanks.2 fun c hc => List.mem_takeWhile_imp hc
    refine ⟨_, hblanks, trimStart t, Language.mem_one_add.2 ?_, List.takeWhile_append_dropWhile⟩
    rw [isDeclarationEnd, Bool.or_eq_true, Bool.and_eq_true, List.isEmpty_iff,
      List.isPrefixOf_iff_prefix] at h
    refine h.imp_right ?_
    rintro ⟨⟨u, hu⟩, hline⟩
    rw [← hu] at hline ⊢
    refine Language.append_mem_mul rfl (Language.mem_kstar_ofClass.2 fun c hc => bne_iff_ne.2 ?_)
    rintro rfl
    simp [hc] at hline

/-! ### Bounds -/

/-- Bounds, behind the rest of one if `inside`. -/
def boundsBehind (inside : Bool) :=
  if inside then (Language.ofClass (· != ']'))∗ * Language.literal [']'] * (blanks * bound∗)
  else blanks * bound∗

theorem mem_boundsBehind_true {t : List Char} :
    t ∈ boundsBehind true ↔ ∃ p, ']' ∉ p ∧ ∃ s ∈ boundsBehind false, t = p ++ ']' :: s := by
  simp only [boundsBehind, if_true, mul_assoc, Language.mem_mul]
  constructor
  · rintro ⟨p, hp, _, ⟨_, rfl, s, hs, rfl⟩, rfl⟩
    refine ⟨p, fun hmem => ?_, s, hs, rfl⟩
    simpa using Language.mem_kstar_ofClass.1 hp ']' hmem
  · rintro ⟨p, hp, s, hs, rfl⟩
    refine ⟨p, Language.mem_kstar_ofClass.2 fun c hc => bne_iff_ne.2 ?_, _,
      ⟨_, rfl, s, hs, rfl⟩, rfl⟩
    rintro rfl
    exact hp hc

/-- Bounds start with a bracket, and behind it stand the rest of one and others. -/
theorem mem_kstar_bound {t : List Char} :
    t ∈ bound∗ ↔ t = [] ∨ ∃ s ∈ boundsBehind true, t = '[' :: s := by
  rw [← Language.one_add_self_mul_kstar_eq_kstar, Language.mem_one_add]
  refine or_congr_right ?_
  have hassoc : bound * bound∗ = Language.literal ['['] * boundsBehind true := by
    simp only [bound, boundsBehind, if_true, mul_assoc]
  rw [hassoc, Language.mem_mul]
  constructor
  · rintro ⟨_, rfl, s, hs, rfl⟩
    exact ⟨s, hs, rfl⟩
  · rintro ⟨s, hs, rfl⟩
    exact ⟨_, rfl, s, hs, rfl⟩

theorem mem_boundsBehind_false {t : List Char} :
    t ∈ boundsBehind false ↔ ∃ b ∈ blanks, ∃ s ∈ bound∗, t = b ++ s := by
  simp only [boundsBehind, Bool.false_eq_true, if_false, Language.mem_mul, eq_comm]

theorem nil_mem_boundsBehind {inside : Bool} : [] ∈ boundsBehind inside ↔ inside = false := by
  cases inside with
  | true => simp [mem_boundsBehind_true]
  | false =>
    refine iff_of_true ?_ rfl
    exact mem_boundsBehind_false.2 ⟨[], mem_blanks.2 (by simp), [], Language.nil_mem_kstar _, rfl⟩

/-- An open bound is read character by character, up to the bracket that closes it. -/
theorem cons_mem_boundsBehind_true {d : Char} {t : List Char} :
    d :: t ∈ boundsBehind true ↔ t ∈ boundsBehind (d != ']') := by
  rw [mem_boundsBehind_true]
  constructor
  · rintro ⟨p, hp, s, hs, h⟩
    cases p with
    | nil =>
      cases h
      exact hs
    | cons c p =>
      cases h
      rw [List.mem_cons, not_or] at hp
      rw [bne_iff_ne.2 (Ne.symm hp.1)]
      exact mem_boundsBehind_true.2 ⟨p, hp.2, s, hs, rfl⟩
  · intro h
    by_cases hd : d = ']'
    · subst hd
      exact ⟨[], List.not_mem_nil, t, h, rfl⟩
    · rw [bne_iff_ne.2 hd] at h
      obtain ⟨p, hp, s, hs, rfl⟩ := mem_boundsBehind_true.1 h
      refine ⟨d :: p, ?_, s, hs, rfl⟩
      rw [List.mem_cons, not_or]
      exact ⟨Ne.symm hd, hp⟩

/-- Where no bound is open, a bracket opens one, and blanks are passed over. -/
theorem cons_mem_boundsBehind_false {d : Char} {t : List Char} :
    d :: t ∈ boundsBehind false ↔
      d = '[' ∧ t ∈ boundsBehind true ∨ isBlank d = true ∧ t ∈ boundsBehind false := by
  rw [mem_boundsBehind_false, mem_boundsBehind_false]
  constructor
  · rintro ⟨b, hb, s, hs, h⟩
    cases b with
    | nil =>
      subst h
      obtain ⟨s, hs, h⟩ := (mem_kstar_bound.1 hs).resolve_left (List.cons_ne_nil _ _)
      cases h
      exact .inl ⟨rfl, hs⟩
    | cons c b =>
      cases h
      obtain ⟨hc, hb⟩ := List.forall_mem_cons.1 (mem_blanks.1 hb)
      exact .inr ⟨hc, b, mem_blanks.2 hb, s, hs, rfl⟩
  · rintro (⟨rfl, h⟩ | ⟨hd, b, hb, s, hs, rfl⟩)
    · exact ⟨[], mem_blanks.2 (by simp), _, mem_kstar_bound.2 (.inr ⟨t, h, rfl⟩), rfl⟩
    · exact ⟨d :: b, mem_blanks.2 (List.forall_mem_cons.2 ⟨hd, mem_blanks.1 hb⟩), s, hs, rfl⟩

/-- The recogniser of bounds is right where something follows them. -/
theorem skipBounds_eq_cons_iff {inside : Bool} {t u : List Char} {c : Char} :
    skipBounds inside t = c :: u ↔ (c ≠ '[' ∧ isBlank c = false) ∧
      ∃ s ∈ boundsBehind inside, t = s ++ c :: u := by
  induction t generalizing inside with
  | nil => simp [skipBounds]
  | cons d t ih =>
    rw [Language.exists_append_cons_iff, nil_mem_boundsBehind, skipBounds]
    cases inside with
    | true => simp [ih, cons_mem_boundsBehind_true]
    | false =>
      simp only [Bool.false_eq_true, if_false, true_and]
      by_cases hd : d = '['
      · subst hd
        have hstep (s : List Char) : '[' :: s ∈ boundsBehind false ↔ s ∈ boundsBehind true := by
          rw [cons_mem_boundsBehind_false]
          simp [show isBlank '[' = false from rfl]
        simp only [hstep, beq_self_eq_true, if_true, ih]
        -- what follows the bounds is no bracket
        exact and_congr_right fun h => (or_iff_right fun h' => h.1 h'.1.symm).symm
      · have hbracket : (d == '[') = false := beq_eq_false_iff_ne.2 hd
        by_cases hb : isBlank d = true
        · have hstep (s : List Char) : d :: s ∈ boundsBehind false ↔ s ∈ boundsBehind false := by
            rw [cons_mem_boundsBehind_false]
            simp [hd, hb]
          simp only [hstep, hbracket, Bool.false_eq_true, if_false, hb, if_true, ih]
          -- nor is it a blank
          refine and_congr_right fun h => (or_iff_right fun h' => ?_).symm
          rw [h'.1, h.2] at hb
          cases hb
        · have hstop (s : List Char) : d :: s ∉ boundsBehind false := by
            rw [cons_mem_boundsBehind_false]
            simp [hd, hb]
          simp only [hstop, hbracket, Bool.false_eq_true, if_false, hb, List.cons.injEq, false_and,
            exists_false, or_false]
          refine ⟨fun h => ⟨?_, h⟩, And.right⟩
          rw [← h.1]
          exact ⟨hd, by simpa using hb⟩

/-! ### The end, put together -/

theorem mem_variableEnd {t : List Char} : t ∈ variableEnd ↔ ∃ s ∈ boundsBehind false,
    ∃ k ∈ initialiser, ∃ e ∈ declarationEnd, t = s ++ (k ++ ';' :: e) := by
  have hassoc : variableEnd =
      boundsBehind false * (initialiser * (Language.literal [';'] * declarationEnd)) := by
    simp only [variableEnd, boundsBehind, Bool.false_eq_true, if_false, mul_assoc]
  rw [hassoc, Language.mem_mul]
  constructor
  · rintro ⟨s, hs, _, ⟨k, hk, _, ⟨_, rfl, e, he, rfl⟩, rfl⟩, rfl⟩
    exact ⟨s, hs, k, hk, e, he, rfl⟩
  · rintro ⟨s, hs, k, hk, e, he, rfl⟩
    exact ⟨s, hs, _, ⟨k, hk, _, ⟨_, rfl, e, he, rfl⟩, rfl⟩, rfl⟩

/-- The recogniser of what stands behind the name is right. -/
theorem mem_variableEnd_iff {t : List Char} : t ∈ variableEnd ↔ isVariableEnd t = true := by
  rw [mem_variableEnd, isVariableEnd]
  constructor
  · rintro ⟨s, hs, k, hk, e, he, rfl⟩
    rw [mem_declarationEnd_iff] at he
    rcases mem_initialiser.1 hk with rfl | ⟨c, u, rfl, hc, hu⟩
    · have hskip : skipBounds false (s ++ ([] ++ ';' :: e)) = ';' :: e :=
        skipBounds_eq_cons_iff.2 ⟨⟨by decide, rfl⟩, s, hs, rfl⟩
      rw [hskip]
      exact he
    · have hne : c ≠ '[' ∧ isBlank c = false := by rcases hc with rfl | rfl <;> decide
      have hskip : skipBounds false (s ++ (c :: u ++ ';' :: e)) = c :: (u ++ ';' :: e) :=
        skipBounds_eq_cons_iff.2 ⟨hne, s, hs, rfl⟩
      have hsign : (c == '=' || c == ',') = true := by simpa using hc
      have hrun : ∀ d ∈ c :: u, (d != ';') = true := by
        refine List.forall_mem_cons.2 ⟨by rcases hc with rfl | rfl <;> rfl, fun d hd => ?_⟩
        exact bne_iff_ne.2 fun heq => hu (heq ▸ hd)
      have hdrop : (c :: u ++ ';' :: e).dropWhile (· != ';') = ';' :: e :=
        dropWhile_append_of_head hrun (by simp)
      rw [List.cons_append] at hdrop
      rw [hskip]
      simp only [hsign, if_true, hdrop, he]
  · intro h
    rcases hskip : skipBounds false t with _ | ⟨c, u⟩
    · rw [hskip] at h
      cases h
    · obtain ⟨-, s, hs, rfl⟩ := skipBounds_eq_cons_iff.1 hskip
      rw [hskip] at h
      by_cases hsign : (c == '=' || c == ',') = true
      · simp only [hsign, if_true] at h
        split at h
        · rename_i e hdrop
          have hc : c = '=' ∨ c = ',' := by simpa using hsign
          have hstart : (c != ';') = true := by rcases hc with rfl | rfl <;> rfl
          have hcut := List.takeWhile_append_dropWhile (p := (· != ';')) (l := c :: u)
          rw [hdrop, List.takeWhile_cons_of_pos (p := (· != ';')) hstart] at hcut
          refine ⟨s, hs, _, mem_initialiser.2 (.inr ⟨c, _, rfl, hc, fun hmem => ?_⟩), e,
            mem_declarationEnd_iff.2 h, by rw [hcut]⟩
          simpa using List.mem_takeWhile_imp hmem
        · cases h
      · simp only [hsign] at h
        split at h
        · rename_i e heq
          exact ⟨s, hs, [], mem_initialiser.2 (.inl rfl), e, mem_declarationEnd_iff.2 h,
            congrArg _ heq⟩
        · cases h

/-- The signs that may follow the name of a variable, blanks apart. -/
def stops : List Char := ['[', '=', ',', ';']

/-- Behind the name stands one of the signs, with nothing but blanks between. -/
theorem exists_stop {e : List Char} (he : e ∈ variableEnd) :
    ∃ b ∈ blanks, ∃ stop ∈ stops, ∃ behind, e = b ++ stop :: behind := by
  obtain ⟨s, hs, k, hk, e, -, rfl⟩ := mem_variableEnd.1 he
  obtain ⟨b, hb, bounds, hbounds, rfl⟩ := mem_boundsBehind_false.1 hs
  rcases mem_kstar_bound.1 hbounds with rfl | ⟨s, -, rfl⟩
  · rcases mem_initialiser.1 hk with rfl | ⟨c, u, rfl, hc, -⟩
    · exact ⟨b, hb, ';', by decide, e, by simp⟩
    · exact ⟨b, hb, c, by rcases hc with rfl | rfl <;> decide, u ++ ';' :: e, by simp⟩
  · exact ⟨b, hb, '[', by decide, s ++ (k ++ ';' :: e), by simp⟩

theorem not_isWord_head?_variableEnd {e : List Char} (he : e ∈ variableEnd) :
    ∀ c ∈ e.head?, isWord c = false := by
  obtain ⟨b, hb, stop, hstop, behind, rfl⟩ := exists_stop he
  intro c hc
  rw [List.head?_append, Option.mem_def, Option.or_eq_some_iff] at hc
  rcases hc with hc | ⟨-, hc⟩
  · exact not_isWord_of_isBlank (mem_blanks.1 hb c (List.mem_of_mem_head? hc))
  · cases hc
    have hstops : (stops.all fun c => !isWord c) = true := by decide
    simpa using List.all_eq_true.1 hstops stop hstop

end StyleAudit.Declaration
