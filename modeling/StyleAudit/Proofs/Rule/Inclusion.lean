import StyleAudit.Proofs.Declaration.Symbol
import StyleAudit.Rule.Check

/-!
# The grammar of inclusions

An inclusion is the word `#include`, a gap, and the name of a header in angle brackets or quotes.
The name is a run of characters that are not blank, and such a run may hold `.h` and the closing
mark before it ends in them.  A pattern for inclusions can therefore be matched in several ways, and
whether it is matched at all depends on all of them.

* `Rule.inclusion` is the pattern, as a language.  A text is in it if it can be cut in some way.
* `Rule.IncludesHeader` is the form of an inclusion, which leaves nothing to choose.
* `Rule.mem_inclusion_iff` says that trimmed texts match the pattern iff they have the form, and
  `Rule.isInclusion_iff` that this is what the rule tests, with one look at the end of the text.

So `Rule.evaluate_includeForm` says what the rule reports.
-/

namespace StyleAudit.Rule

open Text
open scoped Computability

/-! ### The form and the pattern -/

/-- The name of a header with its marks. -/
inductive HeaderName : List Char → Prop
  /-- In angle brackets. -/
  | angled {s : List Char} : s ≠ [] → HeaderName ('<' :: s ++ ".h>".toList)
  /-- In quotes. -/
  | quoted {s : List Char} : s ≠ [] → HeaderName ('"' :: s ++ ".h\"".toList)

/-- A well-formed inclusion: the word, one blank or more, and a single word that names a header. -/
inductive IncludesHeader : List Char → Prop
  /-- The parts, one behind the other. -/
  | intro {blanks name : List Char} : blanks ≠ [] → (∀ c ∈ blanks, isBlank c = true) →
      (∀ c ∈ name, isBlank c = false) → HeaderName name →
      IncludesHeader ("#include".toList ++ blanks ++ name)

/-- Characters that are not blank, and at least one. -/
def solid :=
  Language.ofClass (fun c => !isBlank c) * (Language.ofClass fun c => !isBlank c)∗

/-- What stands between two marks, and the marks. -/
def headerBetween (opening closing : Char) :=
  Language.literal [opening] * solid * Language.literal ['.', 'h', closing]

/-- The pattern of inclusions.  Blanks may follow. -/
def inclusion :=
  Language.literal "#include".toList * gap * (headerBetween '<' '>' + headerBetween '"' '"') *
    blanks

theorem mem_solid {t : List Char} : t ∈ solid ↔ t ≠ [] ∧ ∀ c ∈ t, isBlank c = false := by
  simp [solid, Language.mem_ofClass_mul_kstar_self]

theorem mem_headerBetween {opening closing : Char} {t : List Char} :
    t ∈ headerBetween opening closing ↔
      ∃ s, s ≠ [] ∧ (∀ c ∈ s, isBlank c = false) ∧ t = opening :: s ++ ['.', 'h', closing] := by
  simp only [headerBetween, Language.mem_mul, mem_solid]
  constructor
  · rintro ⟨_, ⟨_, rfl, s, ⟨hne, hs⟩, rfl⟩, _, rfl, rfl⟩
    exact ⟨s, hne, hs, rfl⟩
  · rintro ⟨s, hne, hs, rfl⟩
    exact ⟨opening :: s, ⟨[opening], rfl, s, ⟨hne, hs⟩, rfl⟩, ['.', 'h', closing], rfl, rfl⟩

/-- Either kind of name is a name in the pattern, once it holds no blank. -/
theorem mem_header_iff {t : List Char} :
    t ∈ headerBetween '<' '>' + headerBetween '"' '"' ↔
      (∀ c ∈ t, isBlank c = false) ∧ HeaderName t := by
  rw [Language.mem_add, mem_headerBetween, mem_headerBetween]
  constructor
  · have hangled : OneWord ['.', 'h', '>'] := by decide
    have hquoted : OneWord ['.', 'h', '"'] := by decide
    rintro (⟨s, hne, hs, rfl⟩ | ⟨s, hne, hs, rfl⟩)
    · have hfront : ∀ c ∈ '<' :: s, isBlank c = false := List.forall_mem_cons.2 ⟨by decide, hs⟩
      exact ⟨List.forall_mem_append.2 ⟨hfront, hangled.not_blank⟩, .angled hne⟩
    · have hfront : ∀ c ∈ '"' :: s, isBlank c = false := List.forall_mem_cons.2 ⟨by decide, hs⟩
      exact ⟨List.forall_mem_append.2 ⟨hfront, hquoted.not_blank⟩, .quoted hne⟩
  · rintro ⟨hsolid, hname⟩
    cases hname with
    | @angled s hne => exact .inl ⟨s, hne, fun c hc => hsolid c (by simp [hc]), rfl⟩
    | @quoted s hne => exact .inr ⟨s, hne, fun c hc => hsolid c (by simp [hc]), rfl⟩

/-! ### What the rule tests -/

theorem isHeaderBody_iff {close : Char} {t : List Char} :
    isHeaderBody close t = true ↔
      (∀ c ∈ t, isBlank c = false) ∧ ∃ s, s ≠ [] ∧ t = s ++ ['.', 'h', close] := by
  simp only [isHeaderBody, Bool.and_eq_true, List.all_eq_true, Bool.not_eq_true',
    List.isSuffixOf_iff_suffix, decide_eq_true_eq, and_assoc]
  refine and_congr_right fun _ => ?_
  constructor
  · rintro ⟨⟨s, rfl⟩, hlen⟩
    refine ⟨s, ?_, rfl⟩
    rintro rfl
    simp at hlen
  · rintro ⟨s, hne, rfl⟩
    have := List.length_pos_iff.2 hne
    exact ⟨⟨s, rfl⟩, by simpa using this⟩

theorem isHeaderName_iff {t : List Char} :
    isHeaderName t = true ↔ (∀ c ∈ t, isBlank c = false) ∧ HeaderName t := by
  constructor
  · intro h
    unfold isHeaderName at h
    split at h
    · obtain ⟨hsolid, s, hne, rfl⟩ := isHeaderBody_iff.1 h
      exact ⟨List.forall_mem_cons.2 ⟨by decide, hsolid⟩, .angled hne⟩
    · obtain ⟨hsolid, s, hne, rfl⟩ := isHeaderBody_iff.1 h
      exact ⟨List.forall_mem_cons.2 ⟨by decide, hsolid⟩, .quoted hne⟩
    · cases h
  · rintro ⟨hsolid, hname⟩
    cases hname with
    | angled hne => exact isHeaderBody_iff.2 ⟨(List.forall_mem_cons.1 hsolid).2, _, hne, rfl⟩
    | quoted hne => exact isHeaderBody_iff.2 ⟨(List.forall_mem_cons.1 hsolid).2, _, hne, rfl⟩

theorem oneWord_include : ∀ w ∈ ["#include"], OneWord w.toList :=
  List.forall_mem_singleton.2 (by decide)

/-- **The test of the rule is the form of an inclusion**, for every text. -/
theorem isInclusion_iff {t : List Char} : isInclusion t = true ↔ IncludesHeader t := by
  constructor
  · intro h
    unfold isInclusion at h
    split at h
    · next name hread =>
      obtain ⟨-, w, hw, g, hg, rfl⟩ := (Declaration.readKeyword_eq_some_iff oneWord_include).1 hread
      obtain ⟨hne, hblank⟩ := mem_gap.1 hg
      obtain ⟨hsolid, hname⟩ := isHeaderName_iff.1 h
      rw [List.mem_singleton.1 hw, ← List.append_assoc]
      exact .intro hne hblank hsolid hname
    · cases h
  · intro h
    cases h with
    | @intro g name hne hblank hsolid hname =>
      -- the gap ends where the name starts, as the name holds no blank
      have hhead : ∀ c ∈ name.head?, isBlank c = false :=
        fun c hc => hsolid c (List.mem_of_mem_head? hc)
      have hread : Declaration.readKeyword ["#include"] ("#include".toList ++ g ++ name) =
          some name := by
        rw [Declaration.readKeyword_eq_some_iff oneWord_include]
        exact ⟨hhead, "#include", by simp, g, mem_gap.2 ⟨hne, hblank⟩, by rw [List.append_assoc]⟩
      rw [isInclusion, hread]
      exact isHeaderName_iff.2 ⟨hsolid, hname⟩

instance (t : List Char) : Decidable (IncludesHeader t) := decidable_of_iff _ isInclusion_iff

-- marks inside the name, and a name that is too short
example : IncludesHeader "#include \t<a.h>b\".h>".toList ∧
    ¬ IncludesHeader "#include <.h>".toList := by
  decide

/-! ### What the pattern matches -/

/-- **A trimmed text matches the pattern iff it has the form of an inclusion.** -/
theorem mem_inclusion_iff (t : List Char) : trim t ∈ inclusion ↔ IncludesHeader (trim t) := by
  simp only [inclusion, Language.mem_mul, mem_header_iff, mem_gap, mem_blanks]
  constructor
  · rintro ⟨_, ⟨_, ⟨_, rfl, g, ⟨hne, hblank⟩, rfl⟩, name, ⟨hsolid, hname⟩, rfl⟩, back, hback, ht⟩
    -- a trimmed text has no blanks behind the name
    obtain rfl : back = [] := by
      rcases List.eq_nil_or_concat back with rfl | ⟨front, b, rfl⟩
      · rfl
      · rw [List.concat_eq_append, ← List.append_assoc] at ht
        have hlast := not_isBlank_getLast?_trim t b (by rw [← ht, List.getLast?_concat]; rfl)
        rw [hback b (by simp)] at hlast
        cases hlast
    rw [List.append_nil] at ht
    rw [← ht]
    exact .intro hne hblank hsolid hname
  · intro h
    generalize trim t = u at h
    cases h with
    | @intro g name hne hblank hsolid hname =>
      exact ⟨_, ⟨_, ⟨_, rfl, g, ⟨hne, hblank⟩, rfl⟩, name, ⟨hsolid, hname⟩, rfl⟩, [], by simp,
        List.append_nil _⟩

/-- **The rule on inclusions reports what is no inclusion.**  In every session and for every
document, the findings are the lines whose trimmed text starts with the word and does not have the
form of an inclusion, each once and in order.  This form is what the pattern matches, however its
runs of characters are cut. -/
theorem evaluate_includeForm (probe : LeakProbe) (d : Document) (s : Session) :
    evaluate probe .includeForm d s =
      (.ok ((d.lines.filter fun l =>
          "#include".toList <+: l.trimmed ∧ ¬ IncludesHeader l.trimmed).map fun l =>
        .of .includeForm l.number "Incorrect syntax after #include."), s) ∧
    ∀ t, trim t ∈ inclusion ↔ IncludesHeader (trim t) := by
  refine ⟨?_, mem_inclusion_iff⟩
  have hfilter (l : Line) :
      ("#include".toList.isPrefixOf l.trimmed && !isInclusion l.trimmed) =
        decide ("#include".toList <+: l.trimmed ∧ ¬ IncludesHeader l.trimmed) := by
    rw [Bool.eq_iff_iff, decide_eq_true_eq, Bool.and_eq_true, List.isPrefixOf_iff_prefix,
      Bool.not_eq_true', ← isInclusion_iff, Bool.not_eq_true]
  show (Except.ok (includeForm d), s) = _
  simp only [includeForm, hfilter]

end StyleAudit.Rule
