import StyleAudit.Proofs.Declaration.TypeWord
import StyleAudit.Proofs.Declaration.VariableEnd
import StyleAudit.Proofs.Text.Blank

/-!
# Declarations of variables

The pattern of variable declarations has qualifiers, a type word, a separator, a name and an end.
A qualifier may itself be the type word (`long n;`), and so the pattern leaves open how many
qualifiers there are.  Yet a text is matched in one way at most
(`Declaration.MatchesVariable.unique`): the name stands before the first bracket, equals sign, comma
or semicolon, the separator is what is blank or a star in front of it, and the type word is the last
one in front of that.  `readQualified` finds this way (`Declaration.readQualified_eq_some_iff`).
-/

namespace StyleAudit.Declaration

open Text
open scoped Computability

/-! ### The pattern -/

/-- A qualifier and the blanks behind it. -/
def qualifier := Language.oneOf (qualifiers.map String.toList) * gap

/-- Blanks, or one run of stars with blanks around it. -/
def separator := gap + blanks * (Language.ofClass isStar * stars) * blanks

/-- The pattern of variable declarations matches a text with these qualifiers and this variable. -/
structure MatchesVariable (t qs : List Char) (v : Variable) : Prop where
  /-- The parts, in order. -/
  stands : ∃ e ∈ variableEnd, t = qs ++ (v.type ++ (v.separator ++ (v.name ++ e)))
  /-- The qualifiers. -/
  front : qs ∈ qualifier∗
  /-- The type word. -/
  type : v.type ∈ identifier isTypeChar
  /-- What stands between. -/
  between : v.separator ∈ separator
  /-- The name. -/
  name : v.name ∈ identifier isWord

/-! ### Declarations without qualifiers -/

/-- The recogniser of separators is right about texts of blanks and stars. -/
theorem mem_separator_iff {t : List Char} :
    t ∈ separator ↔ (∀ c ∈ t, (isBlank c || isStar c) = true) ∧ isSeparator t = true := by
  rw [isSeparator, Bool.and_eq_true, Bool.not_eq_true', List.isEmpty_eq_false_iff]
  constructor
  · rintro (hgap | ⟨_, ⟨b, hb, s, hs, rfl⟩, b', hb', rfl⟩)
    · obtain ⟨hne, hblank⟩ := mem_gap.1 hgap
      have hnone : ∀ c ∈ ([] : List Char), isBlank c = true := by simp
      have htrim : trim t = [] := by
        simpa [trim, trimStart, trimEnd] using trim_append hblank hnone []
      rw [htrim]
      exact ⟨fun c hc => by simp [hblank c hc], hne, rfl⟩
    · obtain ⟨hne, hstar⟩ := Language.mem_ofClass_mul_kstar_self.1 hs
      have hb := mem_blanks.1 hb
      have hb' := mem_blanks.1 hb'
      rw [trim_append hb hb', trim_eq_self fun c hc => not_isBlank_of_isStar (hstar c hc)]
      refine ⟨fun c hc => ?_, by simp [hne], List.all_eq_true.2 hstar⟩
      rcases List.mem_append.1 hc with hc | hc
      · rcases List.mem_append.1 hc with hc | hc
        · simp [hb c hc]
        · simp [hstar c hc]
      · simp [hb' c hc]
  · rintro ⟨-, hne, hstar⟩
    obtain ⟨front, back, ht, hfront, hback⟩ := exists_trim t
    by_cases hnil : trim t = []
    · refine .inl (mem_gap.2 ⟨hne, fun c hc => ?_⟩)
      rw [ht, hnil, List.append_nil] at hc
      exact (List.mem_append.1 hc).elim (hfront c) (hback c)
    · refine .inr ?_
      rw [ht]
      exact Language.append_mem_mul (Language.append_mem_mul (mem_blanks.2 hfront)
        (Language.mem_ofClass_mul_kstar_self.2 ⟨hnil, List.all_eq_true.1 hstar⟩))
        (mem_blanks.2 hback)

variable {t qs : List Char} {v : Variable}

/-- A separator ends where the name starts. -/
theorem readSeparator_append {sep name rest : List Char}
    (hsep : ∀ c ∈ sep, (isBlank c || isStar c) = true) (hname : name ∈ identifier isWord) :
    readSeparator (sep ++ (name ++ rest)) = (sep, name ++ rest) := by
  have hhead : ∀ c ∈ (name ++ rest).head?, (isBlank c || isStar c) = false := by
    intro c hc
    rw [not_isBlank_head?_identifier hname c hc, Bool.false_or]
    obtain ⟨d, u, rfl, hd, -⟩ := mem_identifier.1 hname
    cases hc
    by_contra hstar
    have := not_isNameStart_of_isStar (by simpa using hstar)
    rw [hd] at this
    cases this
  rw [readSeparator, takeWhile_append_of_head hsep hhead, List.drop_left]

/-- The parts of a separator follow no type word. -/
theorem not_isTypeChar_of_separator {c : Char} (h : (isBlank c || isStar c) = true) :
    isTypeChar c = false :=
  (Bool.or_eq_true _ _ ▸ h).elim not_isTypeChar_of_isBlank not_isTypeChar_of_isStar

/-- Without qualifiers, the recogniser of variable declarations is right. -/
theorem readVariable_eq_some_iff : readVariable t = some v ↔ MatchesVariable t [] v := by
  constructor
  · intro h
    rw [readVariable] at h
    split at h
    · cases h
    · rename_i type rest hread
      obtain ⟨htype, -, rfl⟩ := readName_eq_some_iff.1 hread
      dsimp only at h
      split_ifs at h with hsep
      split at h
      · cases h
      · rename_i name tail hread
        split_ifs at h with hend
        cases h
        obtain ⟨hname, -, hrest⟩ := readName_eq_some_iff.1 hread
        have hmem : ∀ c ∈ (readSeparator rest).1, (isBlank c || isStar c) = true :=
          fun c hc => List.mem_takeWhile_imp (p := fun c => isBlank c || isStar c) hc
        have hcut : rest = (readSeparator rest).1 ++ (readSeparator rest).2 :=
          (List.prefix_iff_eq_append.1 (List.takeWhile_prefix _)).symm
        refine ⟨⟨tail, mem_variableEnd_iff.2 hend, ?_⟩, Language.nil_mem_kstar _, htype,
          mem_separator_iff.2 ⟨hmem, by simpa using hsep⟩, hname⟩
        rw [← hrest, ← hcut]
        rfl
  · intro h
    obtain ⟨e, he, rfl⟩ := h.stands
    obtain ⟨hchars, hsep⟩ := mem_separator_iff.1 h.between
    have hhead : ∀ c ∈ (v.separator ++ (v.name ++ e)).head?, isTypeChar c = false := by
      intro c hc
      have hne : v.separator ≠ [] := by
        rintro hnil
        rw [hnil] at hsep
        cases hsep
      rw [List.head?_append_of_ne_nil _ hne] at hc
      exact not_isTypeChar_of_separator (hchars c (List.mem_of_mem_head? hc))
    have htype : readName isTypeChar (v.type ++ (v.separator ++ (v.name ++ e))) =
        some (v.type, v.separator ++ (v.name ++ e)) :=
      readName_eq_some_iff.2 ⟨h.type, hhead, rfl⟩
    have hname : readName isWord (v.name ++ e) = some (v.name, e) :=
      readName_eq_some_iff.2 ⟨h.name, not_isWord_head?_variableEnd he, rfl⟩
    rw [List.nil_append, readVariable, htype]
    simp only [readSeparator_append hchars h.name, hsep, hname, mem_variableEnd_iff.1 he]
    rfl

/-! ### One way to match -/

theorem mem_qualifier {t : List Char} :
    t ∈ qualifier ↔ ∃ w ∈ qualifiers, ∃ g ∈ gap, t = w.toList ++ g := by
  rw [qualifier, Language.mem_mul]
  constructor
  · rintro ⟨_, hmem, g, hg, rfl⟩
    obtain ⟨w, hw, rfl⟩ := List.mem_map.1 (Language.mem_oneOf.1 hmem)
    exact ⟨w, hw, g, hg, rfl⟩
  · rintro ⟨w, hw, g, hg, rfl⟩
    exact ⟨_, Language.mem_oneOf.2 (List.mem_map_of_mem hw), g, hg, rfl⟩

theorem oneWord_qualifiers : ∀ w ∈ qualifiers, OneWord w.toList := by decide

/-- Qualifiers are words with blanks behind them. -/
theorem exists_spaced_qualifiers (h : qs ∈ qualifier∗) :
    ∃ ws, Spaced qs ws ∧ ∀ w ∈ ws, String.ofList w ∈ qualifiers := by
  obtain ⟨parts, rfl, hparts⟩ := Language.mem_kstar.1 h
  clear h
  induction parts with
  | nil => exact ⟨[], .nil, by simp⟩
  | cons part parts ih =>
    obtain ⟨hpart, hparts⟩ := List.forall_mem_cons.1 hparts
    obtain ⟨ws, hspaced, hws⟩ := ih hparts
    obtain ⟨w, hw, g, hg, rfl⟩ := mem_qualifier.1 hpart
    refine ⟨w.toList :: ws, ?_, List.forall_mem_cons.2 ⟨by rwa [String.ofList_toList], hws⟩⟩
    rw [List.flatten_cons, List.append_assoc]
    exact .cons (oneWord_qualifiers _ hw) hg hspaced

theorem Spaced.mem_or_isBlank {ws : List (List Char)} (h : Spaced t ws) :
    ∀ c ∈ t, (∃ w ∈ ws, c ∈ w) ∨ isBlank c = true := by
  induction h with
  | nil => simp
  | @cons w g t ws _ hg _ ih =>
    intro c hc
    rcases List.mem_append.1 hc with hc | hc
    · exact .inl ⟨w, List.mem_cons_self, hc⟩
    · rcases List.mem_append.1 hc with hc | hc
      · exact .inr ((mem_gap.1 hg).2 c hc)
      · exact (ih c hc).imp_left fun ⟨w, hw, hc⟩ => ⟨w, List.mem_cons_of_mem _ hw, hc⟩

/-- What stands in qualifiers, the type word and the name. -/
theorem class_of_mem_qualifiers (h : qs ∈ qualifier∗) :
    ∀ c ∈ qs, isTypeChar c = true ∨ isBlank c = true := by
  obtain ⟨ws, hspaced, hws⟩ := exists_spaced_qualifiers h
  have hchars : ∀ w ∈ qualifiers, w.toList.all isTypeChar = true := by decide
  refine fun c hc => (hspaced.mem_or_isBlank c hc).imp_left ?_
  rintro ⟨w, hw, hc⟩
  exact List.all_eq_true.1 (hchars _ (hws w hw)) c (by rwa [String.toList_ofList])

theorem MatchesVariable.class_of_mem (h : MatchesVariable t qs v) :
    ∀ c ∈ qs ++ (v.type ++ v.separator) ++ v.name,
      isTypeChar c = true ∨ (isBlank c || isStar c) = true := by
  intro c hc
  simp only [List.mem_append] at hc
  rcases hc with (hc | hc | hc) | hc
  · refine (class_of_mem_qualifiers h.front c hc).imp_right fun hc => ?_
    rw [hc, Bool.true_or]
  · exact .inl (all_of_mem_identifier (fun c => isTypeChar_of_isWord) h.type c hc)
  · exact .inr ((mem_separator_iff.1 h.between).1 c hc)
  · exact .inl (isTypeChar_of_isWord (all_of_mem_identifier (fun c hc => hc) h.name c hc))

theorem MatchesVariable.separator_ne_nil (h : MatchesVariable t qs v) : v.separator ≠ [] := by
  intro hnil
  have := (mem_separator_iff.1 h.between).2
  rw [hnil] at this
  cases this

/-- The name stands before the first of the signs, behind qualifiers, type and separator. -/
theorem MatchesVariable.runBefore (h : MatchesVariable t qs v) :
    RunBefore isWord stops t (qs ++ (v.type ++ v.separator)) v.name := by
  obtain ⟨e, he, ht⟩ := h.stands
  obtain ⟨b, hb, stop, hstop, behind, rfl⟩ := exists_stop he
  have hstops : (stops.all fun c => !isTypeChar c && !(isBlank c || isStar c)) = true := by decide
  refine ⟨⟨b, stop, behind, by simp [ht], mem_blanks.1 hb, hstop, fun c hc hmem => ?_⟩,
    ne_nil_of_mem_identifier h.name, all_of_mem_identifier (fun c hc => hc) h.name, ?_⟩
  · have hstop := List.all_eq_true.1 hstops c hmem
    rw [Bool.and_eq_true, Bool.not_eq_true', Bool.not_eq_true'] at hstop
    obtain ⟨htype, hsep⟩ := hstop
    rcases List.mem_append.1 hc with hc | hc
    · rcases h.class_of_mem c hc with hc | hc
      · rw [htype] at hc
        cases hc
      · rw [hsep] at hc
        cases hc
    · rw [mem_blanks.1 hb c hc] at hsep
      cases hsep
  · intro c hc
    rw [← List.append_assoc, List.getLast?_append_of_ne_nil _ h.separator_ne_nil] at hc
    have := not_isTypeChar_of_separator
      ((mem_separator_iff.1 h.between).1 c (List.mem_of_getLast? hc))
    by_contra hword
    rw [isTypeChar_of_isWord (by simpa using hword)] at this
    cases this

/-- **The pattern of variable declarations matches a text in one way at most.** -/
theorem MatchesVariable.unique {qs' : List Char} {v' : Variable} (h : MatchesVariable t qs v)
    (h' : MatchesVariable t qs' v') : qs = qs' ∧ v = v' := by
  obtain ⟨hbefore, hname⟩ := h.runBefore.unique (fun c => not_isWord_of_isBlank) h'.runBefore
  -- the type word ends where the separator starts
  have htype {qs : List Char} {v : Variable} (h : v.type ∈ identifier isTypeChar) :
      ∀ c ∈ (qs ++ v.type).getLast?, (isBlank c || isStar c) = false := by
    intro c hc
    rw [List.getLast?_append_of_ne_nil _ (ne_nil_of_mem_identifier h)] at hc
    by_contra hsep
    have := all_of_mem_identifier (fun c => isTypeChar_of_isWord) h c (List.mem_of_getLast? hc)
    rw [not_isTypeChar_of_separator (eq_true_of_ne_false hsep)] at this
    cases this
  -- and starts where the qualifiers end
  have hqs {qs : List Char} (h : qs ∈ qualifier∗) : ∀ c ∈ qs.getLast?, isTypeChar c = false := by
    obtain ⟨ws, hspaced, -⟩ := exists_spaced_qualifiers h
    exact fun c hc => not_isTypeChar_of_isBlank (hspaced.isBlank_getLast? c hc)
  rw [← List.append_assoc, ← List.append_assoc] at hbefore
  obtain ⟨hfront, hsep⟩ := append_inj_of_run hbefore (htype h.type)
    (mem_separator_iff.1 h.between).1 (htype h'.type) (mem_separator_iff.1 h'.between).1
  obtain ⟨hqs, htype⟩ := append_inj_of_run hfront (hqs h.front)
    (all_of_mem_identifier (fun c => isTypeChar_of_isWord) h.type) (hqs h'.front)
    (all_of_mem_identifier (fun c => isTypeChar_of_isWord) h'.type)
  cases v
  cases v'
  simp_all

/-! ### Qualifiers -/

theorem MatchesVariable.not_isBlank_head? (h : MatchesVariable t qs v) :
    ∀ c ∈ t.head?, isBlank c = false := by
  obtain ⟨e, -, rfl⟩ := h.stands
  obtain ⟨ws, hspaced, -⟩ := exists_spaced_qualifiers h.front
  intro c hc
  rw [List.head?_append, Option.mem_def, Option.or_eq_some_iff] at hc
  rcases hc with hc | ⟨-, hc⟩
  · exact hspaced.not_isBlank_head? c hc
  · exact not_isBlank_head?_identifier h.type c hc

/-- A qualifier may stand in front of a declaration. -/
theorem MatchesVariable.qualified {w : String} {g : List Char} (hw : w ∈ qualifiers) (hg : g ∈ gap)
    (h : MatchesVariable t qs v) :
    MatchesVariable (w.toList ++ (g ++ t)) (w.toList ++ g ++ qs) v := by
  obtain ⟨e, he, rfl⟩ := h.stands
  exact ⟨⟨e, he, by simp⟩, Language.append_mem_kstar (mem_qualifier.2 ⟨w, hw, g, hg, rfl⟩)
    h.front, h.type, h.between, h.name⟩

theorem readKeyword_qualifiers {rest : List Char} :
    readKeyword qualifiers t = some rest ↔ (∀ c ∈ rest.head?, isBlank c = false) ∧
      ∃ w ∈ qualifiers, ∃ g ∈ gap, t = w.toList ++ (g ++ rest) :=
  readKeyword_eq_some_iff oneWord_qualifiers

/-- What the recogniser of variable declarations finds is matched by the pattern. -/
theorem matchesVariable_of_readQualified {fuel : Nat} (h : readQualified fuel t = some v) :
    ∃ qs, MatchesVariable t qs v := by
  induction fuel generalizing t with
  | zero => exact ⟨[], readVariable_eq_some_iff.1 h⟩
  | succ fuel ih =>
    rw [readQualified] at h
    split at h
    · exact ⟨[], readVariable_eq_some_iff.1 h⟩
    · rename_i rest hread
      obtain ⟨-, w, hw, g, hg, rfl⟩ := readKeyword_qualifiers.1 hread
      rcases Option.or_eq_some_iff.1 h with h | ⟨-, h⟩
      · obtain ⟨qs, h⟩ := ih h
        exact ⟨_, h.qualified hw hg⟩
      · exact ⟨[], readVariable_eq_some_iff.1 h⟩

/-- What the pattern matches is found, if there is fuel for every qualifier. -/
theorem readQualified_of_matchesVariable {fuel : Nat} (h : MatchesVariable t qs v)
    (hfuel : t.length ≤ fuel) : readQualified fuel t = some v := by
  induction fuel generalizing t qs with
  | zero =>
    obtain ⟨e, -, rfl⟩ := h.stands
    have := List.length_pos_of_ne_nil (ne_nil_of_mem_identifier h.type)
    simp only [List.length_append] at hfuel
    omega
  | succ fuel ih =>
    have hfront := h.front
    rw [← Language.one_add_self_mul_kstar_eq_kstar, Language.mem_one_add] at hfront
    rw [readQualified]
    rcases hfront with rfl | hfront
    · have hread := readVariable_eq_some_iff.2 h
      split
      · exact hread
      · -- a qualifier that is read here is the type word, or else there are two ways to match
        rename_i rest hkeyword
        obtain ⟨-, w, hw, g, hg, rfl⟩ := readKeyword_qualifiers.1 hkeyword
        rcases hrest : readQualified fuel rest with _ | v'
        · rw [Option.none_or, hread]
        · obtain ⟨qs, h'⟩ := matchesVariable_of_readQualified hrest
          rw [Option.some_or, (h'.qualified hw hg).unique h |>.2]
    · obtain ⟨part, hpart, qs, hqs, rfl⟩ := Language.mem_mul.1 hfront
      obtain ⟨w, hw, g, hg, rfl⟩ := mem_qualifier.1 hpart
      obtain ⟨e, he, rfl⟩ := h.stands
      have hrest : MatchesVariable (qs ++ (v.type ++ (v.separator ++ (v.name ++ e)))) qs v :=
        ⟨⟨e, he, rfl⟩, hqs, h.type, h.between, h.name⟩
      have hkeyword := readKeyword_qualifiers.2
        ⟨hrest.not_isBlank_head?, w, hw, g, hg, rfl⟩
      have hpos := List.length_pos_of_ne_nil (oneWord_qualifiers _ hw).ne_nil
      rw [List.append_assoc, List.append_assoc] at hfuel ⊢
      rw [hkeyword]
      simp only
      rw [ih hrest, Option.some_or]
      rw [List.length_append] at hfuel
      rw [List.length_append] at hfuel
      omega

/-- **The recogniser of variable declarations is right.** -/
theorem readQualified_eq_some_iff :
    readQualified t.length t = some v ↔ ∃ qs, MatchesVariable t qs v :=
  ⟨matchesVariable_of_readQualified, fun ⟨_, h⟩ => readQualified_of_matchesVariable h le_rfl⟩

theorem declaredVariable_eq_some_iff : declaredVariable t = some v ↔
    (∃ qs, MatchesVariable t qs v) ∧ isStatementWord v.type = false ∧
      isStatementWord v.name = false := by
  rw [← readQualified_eq_some_iff, declaredVariable]
  constructor
  · intro h
    split at h
    · rename_i v' hread
      split_ifs at h with hword
      cases h
      rw [Bool.or_eq_true, not_or, Bool.not_eq_true, Bool.not_eq_true] at hword
      exact ⟨hread, hword⟩
    · cases h
  · rintro ⟨hread, htype, hname⟩
    simp only [hread, htype, hname, Bool.or_self, Bool.false_eq_true, if_false]

end StyleAudit.Declaration
