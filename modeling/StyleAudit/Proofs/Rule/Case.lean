import StyleAudit.Proofs.Rule.Order
import StyleAudit.Proofs.Text.Letter

/-!
# The case of variables

The rule on variables has two complaints.  One is meant for names whose cased letters are all small,
and one for names whose cased letters are all capital; a letter is cased if it is one of both.  The
rule tests for *some letter* where *some cased letter* is meant.  Both come to the same in a name
that has a cased letter or no letter at all (`Rule.CasedIfLettered`), but many scripts know no
case.

`Rule.evaluate_variableCase` says for every name when there is which complaint, and that this is
what is meant unless the name has letters and none of them is cased.  Such a name gets the first
complaint (`Rule.evaluate_variableCase_caseless`).
-/

namespace StyleAudit.Rule

open Text

/-! ### Names -/

/-- Some letter is a capital or a small one. -/
def HasCased (name : List Char) : Prop := ∃ c ∈ name, isCapital c = true ∨ isSmall c = true

/-- No letter is a capital. -/
def NoCapital (name : List Char) : Prop := ∀ c ∈ name, isCapital c = false

/-- No letter is a small one. -/
def NoSmall (name : List Char) : Prop := ∀ c ∈ name, isSmall c = false

/-- If the name has a letter, it has a cased one. -/
def CasedIfLettered (name : List Char) : Prop :=
  (∃ c ∈ name, isLetter c = true) → HasCased name

instance (name : List Char) : Decidable (HasCased name) :=
  decidable_of_iff (name.any fun c => isCapital c || isSmall c) (by simp [HasCased])

instance (name : List Char) : Decidable (NoCapital name) :=
  decidable_of_iff (name.all fun c => !isCapital c) (by simp [NoCapital])

instance (name : List Char) : Decidable (NoSmall name) :=
  decidable_of_iff (name.all fun c => !isSmall c) (by simp [NoSmall])

instance (name : List Char) : Decidable (CasedIfLettered name) :=
  decidable_of_iff (name.any isLetter = true → HasCased name) (by simp [CasedIfLettered])

variable {name : List Char}

/-- A cased letter is a letter. -/
theorem HasCased.exists_isLetter (h : HasCased name) : ∃ c ∈ name, isLetter c = true := by
  obtain ⟨c, hc, h⟩ := h
  exact ⟨c, hc, h.elim isLetter_of_isCapital isLetter_of_isSmall⟩

/-- A name cannot be without capitals and without small letters if it has a cased letter. -/
theorem HasCased.not_noSmall (h : HasCased name) (hc : NoCapital name) : ¬ NoSmall name := by
  obtain ⟨c, hmem, h⟩ := h
  intro hs
  simp [hc c hmem, hs c hmem] at h

theorem isAllSmall_iff :
    isAllSmall name = true ↔ (∃ c ∈ name, isLetter c = true) ∧ NoCapital name := by
  simp [isAllSmall, NoCapital]

theorem isAllCapital_iff :
    isAllCapital name = true ↔ (∃ c ∈ name, isLetter c = true) ∧ NoSmall name := by
  simp [isAllCapital, NoSmall]

/-- The second test is only made of names with a capital, so that it is what is meant. -/
theorem not_isAllSmall_and_isAllCapital_iff :
    ¬ isAllSmall name = true ∧ isAllCapital name = true ↔ HasCased name ∧ NoSmall name := by
  rw [isAllSmall_iff, isAllCapital_iff]
  constructor
  · rintro ⟨hnot, hletter, hs⟩
    have hc : ¬ NoCapital name := fun hc => hnot ⟨hletter, hc⟩
    obtain ⟨c, hmem, hc⟩ : ∃ c ∈ name, isCapital c = true := by simpa [NoCapital] using hc
    exact ⟨⟨c, hmem, .inl hc⟩, hs⟩
  · rintro ⟨hcased, hs⟩
    exact ⟨fun h => hcased.not_noSmall h.2 hs, hcased.exists_isLetter, hs⟩

/-! ### Complaints -/

/-- The complaint about a name without capitals. -/
def smallFinding (x : Declaration) : Diagnostic :=
  .of .variableCase x.line
    ("Variable " ++ String.ofList x.name ++ " does not start with an uppercase letter")

/-- The complaint about a name without small letters. -/
def capitalFinding (x : Declaration) : Diagnostic :=
  .of .variableCase x.line ("Constant " ++ String.ofList x.name ++ " should not be all uppercase")

@[simp]
theorem line_smallFinding (x : Declaration) : (smallFinding x).line = x.line := rfl

@[simp]
theorem line_capitalFinding (x : Declaration) : (capitalFinding x).line = x.line := rfl

/-- The complaints differ in their first letter. -/
theorem smallFinding_ne_capitalFinding (x y : Declaration) : smallFinding x ≠ capitalFinding y := by
  intro h
  have h := congrArg (fun f => f.message.toList.head?) h
  simp [smallFinding, capitalFinding, Diagnostic.of] at h

theorem variableProblem_eq_some_iff {message : String} :
    variableProblem name = some message ↔
      (message = "Variable " ++ String.ofList name ++ " does not start with an uppercase letter" ∧
        (∃ c ∈ name, isLetter c = true) ∧ NoCapital name) ∨
      (message = "Constant " ++ String.ofList name ++ " should not be all uppercase" ∧
        HasCased name ∧ NoSmall name) := by
  rw [← isAllSmall_iff, ← not_isAllSmall_and_isAllCapital_iff, variableProblem]
  by_cases hs : isAllSmall name = true
  · rw [if_pos hs]
    simpa [hs] using eq_comm
  · rw [if_neg hs]
    by_cases hc : isAllCapital name = true
    · rw [if_pos hc]
      simpa [hs, hc] using eq_comm
    · simp [hs, hc]

/-- The findings on the line of a variable are the complaints about it. -/
theorem mem_variableCase_iff {found : List Declaration} (h : Ascending Declaration.line found)
    {x : Declaration} (hx : x ∈ found) (hk : x.kind = .plain) {f : Diagnostic} :
    f ∈ variableCase found ∧ f.line = x.line ↔
      (f = smallFinding x ∧ (∃ c ∈ x.name, isLetter c = true) ∧ NoCapital x.name) ∨
      (f = capitalFinding x ∧ HasCased x.name ∧ NoSmall x.name) := by
  have hx : x ∈ found.filter (·.kind == .plain) := List.mem_filter.2 ⟨hx, by simp [hk]⟩
  have hmem := (h.filter (·.kind == .plain)).mem_filterMap_iff (r := .variableCase)
    (fun x => variableProblem x.name) hx (f := f)
  refine hmem.trans ?_
  simp only [variableProblem_eq_some_iff]
  constructor
  · rintro ⟨message, ⟨rfl, hname⟩ | ⟨rfl, hname⟩, rfl⟩
    · exact .inl ⟨rfl, hname⟩
    · exact .inr ⟨rfl, hname⟩
  · rintro (⟨rfl, hname⟩ | ⟨rfl, hname⟩)
    · exact ⟨_, .inl ⟨rfl, hname⟩, rfl⟩
    · exact ⟨_, .inr ⟨rfl, hname⟩, rfl⟩

/-- Whatever is found is a complaint about a variable. -/
theorem exists_of_mem_variableCase {found : List Declaration}
    (h : Ascending Declaration.line found) {f : Diagnostic} (hf : f ∈ variableCase found) :
    ∃ x ∈ found, x.kind = .plain ∧ (f = smallFinding x ∨ f = capitalFinding x) := by
  obtain ⟨x, hx, hfx⟩ := List.mem_filterMap.1 hf
  obtain ⟨hx, hk⟩ := List.mem_filter.1 hx
  have hk : x.kind = .plain := by simpa using hk
  have hline : f.line = x.line := by
    obtain ⟨message, -, rfl⟩ := Option.map_eq_some_iff.1 hfx
    rfl
  refine ⟨x, hx, hk, ?_⟩
  exact ((mem_variableCase_iff h hx hk).1 ⟨hf, hline⟩).imp And.left And.left

/-! ### The rule -/

/-- **What the rule on variables reports, and where this is what is meant.**  Let a document be
loaded, and let a session have its own declarations.  Every finding is one of the two complaints
about a variable.  A variable gets the first one iff its name has a letter and no capital, and the
second one iff its name has a cased letter and no small one, and never both.

Where a name with letters has a cased one, the first complaint is made iff the name has a cased
letter and no capital.  So there is a finding iff the name has a cased letter, and either no capital
or no small letter. -/
theorem evaluate_variableCase (probe : LeakProbe) (path : Path) (bytes : List UInt8) (s : Session)
    (hs : (s.declarations (.ofBytes path bytes)).1 =
      .ok (Document.ofBytes path bytes).declarations) :
    let d := Document.ofBytes path bytes
    ∃ found, (evaluate probe .variableCase d s).1 = .ok found ∧
      (∀ f ∈ found, ∃ x ∈ d.declarations, x.kind = .plain ∧
        (f = smallFinding x ∨ f = capitalFinding x)) ∧
      ∀ x ∈ d.declarations, x.kind = .plain →
        (∀ f ∈ found, f.line = x.line → f = smallFinding x ∨ f = capitalFinding x) ∧
        (smallFinding x ∈ found ↔ (∃ c ∈ x.name, isLetter c = true) ∧ NoCapital x.name) ∧
        (capitalFinding x ∈ found ↔ HasCased x.name ∧ NoSmall x.name) ∧
        ¬ (smallFinding x ∈ found ∧ capitalFinding x ∈ found) ∧
        (CasedIfLettered x.name →
          (smallFinding x ∈ found ↔ HasCased x.name ∧ NoCapital x.name) ∧
          ((∃ f ∈ found, f.line = x.line) ↔
            HasCased x.name ∧ (NoCapital x.name ∨ NoSmall x.name))) := by
  intro d
  have hasc : Ascending Declaration.line d.declarations :=
    Document.ascending_declarations (Document.ascending_ofBytes path bytes)
  have hfound : (evaluate probe .variableCase d s).1 = .ok (variableCase d.declarations) := by
    show (s.declarations d).1.map variableCase = _
    rw [hs]
    rfl
  refine ⟨_, hfound, fun f hf => exists_of_mem_variableCase hasc hf, fun x hx hk => ?_⟩
  have hmem (f : Diagnostic) := mem_variableCase_iff hasc hx hk (f := f)
  have hsmall : smallFinding x ∈ variableCase d.declarations ↔
      (∃ c ∈ x.name, isLetter c = true) ∧ NoCapital x.name := by
    simpa [smallFinding_ne_capitalFinding] using hmem (smallFinding x)
  have hcapital : capitalFinding x ∈ variableCase d.declarations ↔
      HasCased x.name ∧ NoSmall x.name := by
    simpa [(smallFinding_ne_capitalFinding x x).symm] using hmem (capitalFinding x)
  refine ⟨?_, hsmall, hcapital, ?_, fun hcased => ?_⟩
  · intro f hf hline
    exact ((hmem f).1 ⟨hf, hline⟩).imp And.left And.left
  · rw [hsmall, hcapital]
    rintro ⟨⟨-, hc⟩, hcased, hs⟩
    exact hcased.not_noSmall hc hs
  · -- with a cased letter among the letters, the test for a letter is the one for a cased letter
    have hletter : (∃ c ∈ x.name, isLetter c = true) ↔ HasCased x.name :=
      ⟨hcased, HasCased.exists_isLetter⟩
    rw [hletter] at hsmall
    refine ⟨hsmall, ?_⟩
    rw [and_or_left, ← hsmall, ← hcapital]
    constructor
    · rintro ⟨f, hf, hline⟩
      rcases (hmem f).1 ⟨hf, hline⟩ with ⟨rfl, -⟩ | ⟨rfl, -⟩
      · exact .inl hf
      · exact .inr hf
    · rintro (hf | hf)
      · exact ⟨_, hf, rfl⟩
      · exact ⟨_, hf, rfl⟩

/-- A small letter beyond ASCII, a capital one, a name without letters and one with both. -/
theorem evaluate_variableCase_scripts :
    let d := Document.ofBytes ⟨"a.c"⟩
      (Utf8.encode "int _ß1;\nint X_Σ;\nint _1;\nint Xσ;\n".toList)
    let s := Session.start .c {} .ofLines .empty
    (s.declarations d).1 = .ok d.declarations ∧
      (∀ x ∈ d.declarations, x.kind = .plain ∧ CasedIfLettered x.name) ∧
      ∃ found, (evaluate (fun _ _ disk => (.ok ⟨true, none⟩, disk)) .variableCase d s).1 =
          .ok found ∧
        smallFinding ⟨.plain, "_ß1".toList, 1, true⟩ ∈ found ∧
        capitalFinding ⟨.plain, "X_Σ".toList, 2, true⟩ ∈ found ∧
        ∀ f ∈ found, f.line ≠ 3 ∧ f.line ≠ 4 := by
  intro d s
  have hd : d.declarations =
      [⟨.plain, "_ß1".toList, 1, true⟩, ⟨.plain, "X_Σ".toList, 2, true⟩,
        ⟨.plain, "_1".toList, 3, true⟩, ⟨.plain, "Xσ".toList, 4, true⟩] := by
    decide +kernel
  have hcased : ∀ x ∈ d.declarations, x.kind = .plain ∧ CasedIfLettered x.name := by
    rw [hd]
    decide +kernel
  obtain ⟨found, hfound, -, hnames⟩ :=
    evaluate_variableCase (fun _ _ disk => (.ok ⟨true, none⟩, disk)) ⟨"a.c"⟩ _ s rfl
  have hname (x : Declaration) (hx : x ∈ d.declarations) :=
    (hnames x hx (hcased x hx).1).2.2.2.2 (hcased x hx).2
  have hnone (x : Declaration) (hx : x ∈ d.declarations)
      (h : ¬ (HasCased x.name ∧ (NoCapital x.name ∨ NoSmall x.name))) :
      ∀ f ∈ found, f.line ≠ x.line :=
    fun f hf hline => h ((hname x hx).2.1 ⟨f, hf, hline⟩)
  refine ⟨rfl, hcased, found, hfound, ?_, ?_, fun f hf => ⟨?_, ?_⟩⟩
  · exact (hname _ (by rw [hd]; simp)).1.2 (by decide +kernel)
  · exact (hnames _ (by rw [hd]; simp) rfl).2.2.1.2 (by decide +kernel)
  · exact hnone ⟨.plain, "_1".toList, 3, true⟩ (by rw [hd]; simp) (by decide +kernel) f hf
  · exact hnone ⟨.plain, "Xσ".toList, 4, true⟩ (by rw [hd]; simp) (by decide +kernel) f hf

/-- **A name without cased letters is reported.**  The letter of the name is neither capital nor
small, so that no complaint is due, and the first one is made. -/
theorem evaluate_variableCase_caseless :
    let d := Document.ofBytes ⟨"a.c"⟩ (Utf8.encode "int _中;\n".toList)
    let s := Session.start .c {} .ofLines .empty
    let x : Declaration := ⟨.plain, "_中".toList, 1, true⟩
    x ∈ d.declarations ∧ ¬ HasCased x.name ∧
      ∃ found, (evaluate (fun _ _ disk => (.ok ⟨true, none⟩, disk)) .variableCase d s).1 =
          .ok found ∧
        smallFinding x ∈ found ∧
        ¬ ((∃ f ∈ found, f.line = x.line) ↔
          HasCased x.name ∧ (NoCapital x.name ∨ NoSmall x.name)) := by
  intro d s x
  have hd : d.declarations = [x] := by decide +kernel
  have hcased : ¬ HasCased x.name := by decide +kernel
  have hfound : smallFinding x ∈ variableCase d.declarations := by
    rw [hd]
    decide +kernel
  exact ⟨by rw [hd]; simp, hcased, _, rfl, hfound, fun h => hcased (h.1 ⟨_, hfound, rfl⟩).1⟩

end StyleAudit.Rule
