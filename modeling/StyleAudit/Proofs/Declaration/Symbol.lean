import StyleAudit.Declaration.Scan
import StyleAudit.Proofs.Declaration.Record
import StyleAudit.Proofs.Declaration.Signature
import StyleAudit.Proofs.Declaration.Variable

/-!
# Where a declared name stands

The three patterns of declarations leave much open, but not the name: where a line declares a
symbol, the kind and the characters of the line determine the name
(`Declaration.classify_determined`).  The name of a function stands before the first parenthesis,
that of a variable before the first bracket, equals sign, comma or semicolon, and that of a type
behind the first keyword.  A line with a semicolon declares no function, and a line without one no
variable.
-/

namespace StyleAudit

namespace Text

/-- Blanks at the end of a text that does not end in a blank are none. -/
theorem eq_nil_of_blank_end {front b : List Char} (hb : ∀ c ∈ b, isBlank c = true)
    (hlast : ∀ c ∈ (front ++ b).getLast?, isBlank c = false) : b = [] := by
  by_contra hne
  rw [List.getLast?_append_of_ne_nil _ hne, List.getLast?_eq_some_getLast hne] at hlast
  have := hlast _ rfl
  rw [hb _ (List.getLast_mem hne)] at this
  cases this

end Text

namespace Declaration

open Text
open scoped Computability

/-- The text ends in a parenthesis, `const` or a brace. -/
def EndsDefinition (t : List Char) : Prop :=
  [')'] <:+ t ∨ "const".toList <:+ t ∨ ['\x7b'] <:+ t

/-- The name stands in the text where the name of a declaration of this kind does. -/
def Stands (kind : DeclarationKind) (t name : List Char) : Prop :=
  match kind with
  | .function => ';' ∉ t ∧ EndsDefinition t ∧ name.head?.any isNameStart = true ∧
      ∃ before ∈ typeWords * stars, RunBefore isFunctionChar ['('] t before name
  | .plain | .pointer => ';' ∈ t ∧ name.head?.any isNameStart = true ∧
      ∃ before, RunBefore isWord ['[', '=', ',', ';'] t before name ∧
        (kind = .pointer ↔ '*' ∈ before)
  | .record => ∃ before, BehindKeyword t before name

variable {t name : List Char}

/-- One name at most stands there. -/
theorem Stands.unique {kind : DeclarationKind} {name' : List Char} (h : Stands kind t name)
    (h' : Stands kind t name') : name = name' := by
  cases kind with
  | function =>
    obtain ⟨-, -, -, before, -, h⟩ := h
    obtain ⟨-, -, -, before', -, h'⟩ := h'
    exact (h.unique (fun c => not_isFunctionChar_of_isBlank) h').2
  | plain | pointer =>
    obtain ⟨-, -, before, h, -⟩ := h
    obtain ⟨-, -, before', h', -⟩ := h'
    exact (h.unique (fun c => not_isWord_of_isBlank) h').2
  | record =>
    obtain ⟨before, h⟩ := h
    obtain ⟨before', h'⟩ := h'
    exact (h.unique h').2

theorem head?_any_of_mem_identifier {p : Char → Bool} (h : name ∈ identifier p) :
    name.head?.any isNameStart = true := by
  obtain ⟨c, u, rfl, hc, -⟩ := mem_identifier.1 h
  exact hc

/-! ### Functions -/

/-- Behind its last parenthesis, a definition has `const` and a brace at most. -/
theorem endsDefinition_of_mem_parameters {front rest : List Char} (h : rest ∈ parameters)
    (hlast : ∀ c ∈ (front ++ rest).getLast?, isBlank c = false) :
    EndsDefinition (front ++ rest) := by
  obtain ⟨_, ⟨p, -, _, rfl, rfl⟩, _, hend, rfl⟩ := h
  obtain ⟨b, hb, k, hk, e, he, rfl⟩ := mem_signatureEnd.1 hend
  have hassoc : front ++ (p ++ [')'] ++ (b ++ (k ++ e))) = front ++ p ++ [')'] ++ b ++ k ++ e := by
    simp
  rw [hassoc] at hlast ⊢
  rcases mem_braceEnd.1 he with hblank | ⟨b', rfl, hblank⟩
  · obtain rfl := eq_nil_of_blank_end hblank hlast
    rw [List.append_nil] at hlast ⊢
    rcases Language.mem_one_add.1 hk with rfl | hk
    · rw [List.append_nil] at hlast ⊢
      obtain rfl := eq_nil_of_blank_end (mem_blanks.1 hb) hlast
      rw [List.append_nil]
      exact .inl (List.suffix_append _ _)
    · obtain ⟨_, rfl, b', hb', rfl⟩ := Language.mem_mul.1 hk
      rw [← List.append_assoc] at hlast ⊢
      obtain rfl := eq_nil_of_blank_end (mem_blanks.1 hb') hlast
      rw [List.append_nil]
      exact .inr (.inl (List.suffix_append _ _))
  · generalize front ++ p ++ [')'] ++ b ++ k = u at hlast ⊢
    rw [List.append_cons] at hlast
    obtain rfl := eq_nil_of_blank_end hblank hlast
    exact .inr (.inr (List.suffix_append _ _))

theorem stands_of_matchesFunction {types : List Char} (h : MatchesFunction t types name)
    (hlast : ∀ c ∈ t.getLast?, isBlank c = false) : Stands .function t name := by
  obtain ⟨head, rest, rfl, hpar, hsemi, hrest, s, hs, g, hg, rfl⟩ := h.cut
  obtain ⟨htypes, hname, -⟩ := h
  refine ⟨?_, ?_, head?_any_of_mem_identifier hname, types ++ s, ⟨types, htypes, s, hs, rfl⟩, ?_⟩
  · have hrest : ';' ∉ rest := by
      have := mem_parameters_iff.1 hrest
      rw [closesSignature, Bool.and_eq_true, Bool.and_eq_true] at this
      simpa using this.1.1
    rw [List.mem_append, List.mem_cons, not_or, not_or]
    exact ⟨hsemi, by decide, hrest⟩
  · rw [List.append_cons] at hlast ⊢
    exact endsDefinition_of_mem_parameters hrest hlast
  · refine ⟨⟨g, '(', rest, by simp, mem_blanks.1 hg, List.mem_singleton_self _,
        fun c hc hmem => ?_⟩, ne_nil_of_mem_identifier hname,
      all_of_mem_identifier (fun c => isFunctionChar_of_isWord) hname, fun c hc => ?_⟩
    · rw [List.mem_singleton.1 hmem] at hc
      exact hpar (by simpa using hc)
    · rw [List.getLast?_append, Option.mem_def, Option.or_eq_some_iff] at hc
      rcases hc with hc | ⟨-, hc⟩
      · exact not_isFunctionChar_of_isStar (mem_stars.1 hs c (List.mem_of_getLast? hc))
      · have := isBlank_getLast?_typeWords htypes
        rw [hc] at this
        exact not_isFunctionChar_of_isBlank this

/-! ### Variables -/

theorem stands_of_matchesVariable {qs : List Char} {v : Variable} (h : MatchesVariable t qs v) :
    Stands (if v.separator.contains '*' then .pointer else .plain) t v.name := by
  have hsemi : ';' ∈ t := by
    obtain ⟨e, he, rfl⟩ := h.stands
    obtain ⟨s, -, k, -, e, -, rfl⟩ := mem_variableEnd.1 he
    simp
  -- stars stand in the separator only
  have hstar : '*' ∈ qs ++ (v.type ++ v.separator) ↔ v.separator.contains '*' = true := by
    have htype : ∀ c ∈ v.type, isTypeChar c = true :=
      all_of_mem_identifier (fun c => isTypeChar_of_isWord) h.type
    rw [List.mem_append, List.mem_append, List.contains_iff_mem]
    constructor
    · rintro (hmem | hmem | hmem)
      · exact absurd (class_of_mem_qualifiers h.front _ hmem) (by decide)
      · exact absurd (htype _ hmem) (by decide)
      · exact hmem
    · exact fun hmem => .inr (.inr hmem)
  have hrun := h.runBefore
  have hhead := head?_any_of_mem_identifier h.name
  split_ifs with hsep
  · exact ⟨hsemi, hhead, _, hrun, iff_of_true rfl (hstar.2 hsep)⟩
  · exact ⟨hsemi, hhead, _, hrun, iff_of_false nofun (mt hstar.1 hsep)⟩

/-! ### The name of a line -/

/-- The three recognisers are tried in order. -/
theorem classify_eq_some {kind : DeclarationKind} (h : classify t = some (kind, name)) :
    kind = .function ∧ definedFunction t = some name ∨
      kind = .record ∧ declaredType t = some name ∨
        ∃ v, declaredVariable t = some v ∧ name = v.name ∧
          kind = if v.separator.contains '*' then .pointer else .plain := by
  rw [classify] at h
  split at h
  · cases h
    exact .inl ⟨rfl, ‹_›⟩
  · split at h
    · cases h
      exact .inr (.inl ⟨rfl, ‹_›⟩)
    · obtain ⟨v, hv, h⟩ := Option.map_eq_some_iff.1 h
      cases h
      exact .inr (.inr ⟨v, hv, rfl, rfl⟩)

/-- **The text determines the declared name.**  Of all names there is exactly one that stands where
the name of a declaration of this kind does, and it is no statement word. -/
theorem classify_determined {line name : List Char} {kind : DeclarationKind}
    (h : classify (trim line) = some (kind, name)) :
    (∀ name', Stands kind (trim line) name' ↔ name' = name) ∧
      (kind ≠ .record → isStatementWord name = false) := by
  suffices hstands : Stands kind (trim line) name ∧
      (kind ≠ .record → isStatementWord name = false) from
    ⟨fun name' => ⟨fun h' => h'.unique hstands.1, fun heq => heq ▸ hstands.1⟩, hstands.2⟩
  rcases classify_eq_some h with ⟨rfl, hfun⟩ | ⟨rfl, htype⟩ | ⟨v, hvar, rfl, rfl⟩
  · obtain ⟨types, hmatch, -, hname⟩ :=
      (definedFunction_eq_some_iff (not_isBlank_head?_trim line)).1 hfun
    exact ⟨stands_of_matchesFunction hmatch (not_isBlank_getLast?_trim line), fun _ => hname⟩
  · obtain ⟨before, -, hbehind⟩ := (declaredType_eq_some_iff.1 htype).behindKeyword
    exact ⟨⟨before, hbehind⟩, fun hne => absurd rfl hne⟩
  · obtain ⟨⟨qs, hmatch⟩, -, hname⟩ := declaredVariable_eq_some_iff.1 hvar
    exact ⟨stands_of_matchesVariable hmatch, fun _ => hname⟩

/-- A function with stars and a qualified name, a pointer behind qualifiers, and a type. -/
theorem classify_determined_each :
    (Stands .function (trim " char **Pool::~Pool (int n) const \x7b".toList) "Pool::~Pool".toList ∧
      ¬ Stands .function (trim " char **Pool::~Pool (int n) const \x7b".toList) "Pool".toList) ∧
    Stands .pointer (trim "  static const long *p [4], q; // ends".toList) "p".toList ∧
    Stands .record (trim "typedef struct node : base \x7b".toList) "node".toList := by
  have hfunction : classify (trim " char **Pool::~Pool (int n) const \x7b".toList) =
      some (.function, "Pool::~Pool".toList) := by decide
  have hpointer : classify (trim "  static const long *p [4], q; // ends".toList) =
      some (.pointer, "p".toList) := by decide
  have hrecord : classify (trim "typedef struct node : base \x7b".toList) =
      some (.record, "node".toList) := by decide
  refine ⟨⟨((classify_determined hfunction).1 _).2 rfl, fun h => ?_⟩,
    ((classify_determined hpointer).1 _).2 rfl, ((classify_determined hrecord).1 _).2 rfl⟩
  exact absurd (((classify_determined hfunction).1 _).1 h) (by decide)

end Declaration

end StyleAudit
