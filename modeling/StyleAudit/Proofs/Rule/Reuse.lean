import StyleAudit.Proofs.Declaration.Symbol
import StyleAudit.Proofs.Rule.Order
import StyleAudit.Proofs.Text.Blank

/-!
# Functions that are reused

The rule on reuse looks for definitions on every line, comments and directives too, where the scan
for declarations passes over these.  Both find the same functions
(`Document.definedFunctions_eq`): a definition starts with a type word, and so the line it stands on
is code.

`Rule.evaluate_codeReuse` says what is reported: each function whose name occurs on a line besides
the one that first defines it (`Document.Reuses`), at that line, with all lines on which the name
occurs.
-/

namespace StyleAudit

open Text

/-! ### The functions of a document -/

/-- The function that a line defines, by its name and the number of the line. -/
def Line.function? (l : Line) : Option (List Char × Nat) :=
  (Declaration.functionName? l.text).map (·, l.number)

namespace Declaration

theorem isCode_of_functionName? {line name : List Char} (h : functionName? line = some name) :
    isCode (trim line) = true := by
  obtain ⟨types, hmatch, -⟩ := (definedFunction_eq_some_iff (not_isBlank_head?_trim line)).1 h
  obtain ⟨htypes, -, s, -, g, -, rest, -, ht⟩ := hmatch
  obtain ⟨part, hpart, others, -, rfl⟩ := Language.mem_mul.1 htypes
  obtain ⟨w, hw, b, -, s', -, g', -, rfl⟩ := mem_typeWord.1 hpart
  obtain ⟨c, u, rfl, hc, -⟩ := mem_identifier.1 hw
  have hne {d : Char} (hd : isNameStart d = false) : c ≠ d := by
    rintro rfl
    rw [hc] at hd
    cases hd
  rw [ht]
  simp [isCode, isBlankOrComment, List.isPrefixOf, Ne.symm (hne (d := '/') rfl),
    Ne.symm (hne (d := '#') rfl)]

/-- A definition is found first among the three kinds of declaration. -/
theorem classify_eq_function_iff {t name : List Char} :
    classify t = some (.function, name) ↔ definedFunction t = some name := by
  constructor
  · intro h
    rcases classify_eq_some h with ⟨-, h⟩ | ⟨h, -⟩ | ⟨v, -, -, h⟩
    · exact h
    · cases h
    · split_ifs at h
  · intro h
    rw [classify, h]

/-- The functions among the declarations of a scan are those of its lines, one by one. -/
theorem functions_scanFrom (depth : Nat) (ls : List (Nat × List Char)) :
    ((scanFrom depth ls).filter (·.kind == .function)).map (fun x => (x.name, x.line)) =
      ls.filterMap fun l => (functionName? l.2).map (·, l.1) := by
  induction ls generalizing depth with
  | nil => rfl
  | cons l ls ih =>
    obtain ⟨number, text⟩ := l
    rw [scanFrom]
    rcases hname : functionName? text with _ | name
    · rw [List.filterMap_cons_none (by rw [hname]; rfl)]
      split_ifs
      · rw [List.filter_append, List.filter_eq_nil_iff.2, List.nil_append, ih]
        -- what the line declares is no function
        intro x hx hkind
        obtain ⟨⟨kind, name⟩, hclass, rfl⟩ := Option.map_eq_some_iff.1 (Option.mem_toList.1 hx)
        obtain rfl : kind = .function := beq_iff_eq.1 hkind
        rw [functionName?, classify_eq_function_iff.1 hclass] at hname
        cases hname
      · exact ih depth
    · have hclass : classify (trim text) = some (.function, name) :=
        classify_eq_function_iff.2 hname
      rw [if_pos (isCode_of_functionName? hname), hclass,
        List.filterMap_cons_some (by rw [hname]; rfl), ← ih (depthAfter depth (trim text))]
      rfl

end Declaration

namespace Document

/-- The functions that the lines define, in order. -/
def definedFunctions (d : Document) : List (List Char × Nat) := d.lines.filterMap Line.function?

/-- The functions of a document are those among its declarations. -/
theorem definedFunctions_eq (d : Document) :
    d.definedFunctions =
      (d.declarations.filter (·.kind == .function)).map fun x => (x.name, x.line) := by
  rw [declarations, Declaration.scan, Declaration.functions_scanFrom, List.filterMap_map]
  rfl

/-- The function is defined first on its line, and its name occurs on another one. -/
structure Reuses (d : Document) (f : List Char × Nat) : Prop where
  /-- It is defined there. -/
  defined : f ∈ d.definedFunctions
  /-- It is not defined above. -/
  first : ∀ n, (f.1, n) ∈ d.definedFunctions → f.2 ≤ n
  /-- The name occurs elsewhere. -/
  elsewhere : ∃ l ∈ d.lines, l.number ≠ f.2 ∧ f.1 <:+: l.text

/-- What is reported about a function. -/
def reuse (d : Document) (f : List Char × Nat) : Diagnostic :=
  .of .codeReuse f.2
    ("Function '" ++ String.ofList f.1 ++
      "' called multiple times. Consider refactoring for code reuse. Call locations: " ++
      ", ".intercalate ((Rule.linesWith f.1 d).map toString))

end Document

namespace Rule

/-! ### First definitions -/

/-- Functions of lines below have greater numbers. -/
theorem lt_of_mem_functions {l : Line} {ls : List Line} {f : List Char × Nat}
    (h : Ascending Line.number (l :: ls)) (hf : f ∈ ls.filterMap Line.function?) :
    l.number < f.2 := by
  obtain ⟨l', hl', hf⟩ := List.mem_filterMap.1 hf
  obtain ⟨name, -, rfl⟩ := Option.map_eq_some_iff.1 hf
  exact (List.pairwise_cons.1 h).1 l' hl'

/-- A definition is gathered where its name was not seen before, and then it is passed over. -/
theorem definitions_cons_some {seen : List (List Char)} {l : Line} {ls : List Line}
    {name : List Char} (h : Declaration.functionName? l.text = some name) :
    definitions seen (l :: ls) =
      if name ∈ seen then definitions seen ls
      else (name, l.number) :: definitions (name :: seen) ls := by
  rw [definitions, h]
  simp only [List.contains_iff_mem]

/-- The definitions that are gathered are the first ones, of names not seen before. -/
theorem mem_definitions_iff {seen : List (List Char)} {ls : List Line} {f : List Char × Nat}
    (h : Ascending Line.number ls) :
    f ∈ definitions seen ls ↔ f.1 ∉ seen ∧ f ∈ ls.filterMap Line.function? ∧
      ∀ n, (f.1, n) ∈ ls.filterMap Line.function? → f.2 ≤ n := by
  induction ls generalizing seen with
  | nil => simp [definitions]
  | cons l ls ih =>
    have ih (seen : List (List Char)) := @ih seen (List.pairwise_cons.1 h).2
    rcases hname : Declaration.functionName? l.text with _ | name
    · have hnone : l.function? = none := by rw [Line.function?, hname]; rfl
      rw [definitions, hname, List.filterMap_cons_none hnone]
      exact ih seen
    · have hsome : l.function? = some (name, l.number) := by rw [Line.function?, hname]; rfl
      rw [definitions_cons_some hname, List.filterMap_cons_some hsome]
      by_cases he : f.1 = name
      · -- of the functions of this name, that of the line itself is the first
        obtain ⟨name, number⟩ := f
        obtain rfl : name = _ := he
        have hlt (hmem : (name, number) ∈ ls.filterMap Line.function?) : l.number < number :=
          lt_of_mem_functions h hmem
        by_cases hseen : name ∈ seen
        · rw [if_pos hseen, ih seen]
          simp [hseen]
        · rw [if_neg hseen, List.mem_cons, ih (name :: seen)]
          constructor
          · rintro (he | ⟨hnot, -⟩)
            · cases he
              refine ⟨hseen, List.mem_cons_self, fun n hn => ?_⟩
              rcases List.mem_cons.1 hn with he | hn
              · cases he
                exact le_rfl
              · exact (lt_of_mem_functions h hn).le
            · exact absurd List.mem_cons_self hnot
          · rintro ⟨-, hmem, hfirst⟩
            refine .inl ((List.mem_cons.1 hmem).resolve_right fun hmem => ?_)
            exact absurd (hfirst l.number List.mem_cons_self) (not_le_of_gt (hlt hmem))
      · -- functions of other names are gathered from the lines below
        have hlater (n : Nat) : (f.1, n) ∈ (name, l.number) :: ls.filterMap Line.function? ↔
            (f.1, n) ∈ ls.filterMap Line.function? := by
          rw [List.mem_cons, Prod.mk.injEq]
          tauto
        simp only [hlater]
        by_cases hseen : name ∈ seen
        · rw [if_pos hseen, ih seen]
        · have hne : f ≠ (name, l.number) := fun heq => he (heq ▸ rfl)
          rw [if_neg hseen, List.mem_cons, ih (name :: seen)]
          simp [hne, he]

theorem ascending_definitions {seen : List (List Char)} {ls : List Line}
    (h : Ascending Line.number ls) : Ascending Prod.snd (definitions seen ls) :=
  h.of_sublist (sublist_definitions seen ls)

/-- Each name is gathered once. -/
theorem nodup_definitions {seen : List (List Char)} {ls : List Line}
    (h : Ascending Line.number ls) : ((definitions seen ls).map Prod.fst).Nodup := by
  refine List.pairwise_map.2 ((ascending_definitions h).imp_of_mem fun hf hg hlt heq => ?_)
  obtain ⟨-, hf, -⟩ := (mem_definitions_iff h).1 hf
  obtain ⟨-, -, hfirst⟩ := (mem_definitions_iff h).1 hg
  exact absurd (hfirst _ (heq ▸ hf)) (not_le_of_gt hlt)

/-! ### Lines with a name -/

theorem mem_linesWith_iff {d : Document} {name : List Char} {n : Nat} :
    n ∈ linesWith name d ↔ ∃ l ∈ d.lines, l.number = n ∧ name <:+: l.text := by
  simp only [linesWith, List.mem_map, List.mem_filter, occursIn_iff, and_assoc, and_comm]

theorem pairwise_linesWith {d : Document} (hd : Ascending Line.number d.lines) (name : List Char) :
    (linesWith name d).Pairwise (· < ·) :=
  List.pairwise_map.2 (hd.filter _)

/-- The name of a function occurs on the line that defines it. -/
theorem mem_linesWith_of_mem_functions {d : Document} {f : List Char × Nat}
    (h : f ∈ d.definedFunctions) : f.2 ∈ linesWith f.1 d := by
  obtain ⟨l, hl, hf⟩ := List.mem_filterMap.1 h
  obtain ⟨name, hname, rfl⟩ := Option.map_eq_some_iff.1 hf
  obtain ⟨types, hmatch, -⟩ :=
    (Declaration.definedFunction_eq_some_iff (not_isBlank_head?_trim l.text)).1 hname
  obtain ⟨-, -, s, -, g, -, rest, -, ht⟩ := hmatch
  refine mem_linesWith_iff.2 ⟨l, hl, rfl, List.IsInfix.trans ?_ (trim_infix_self l.text)⟩
  exact ⟨types ++ s, g ++ '(' :: rest, by simp [ht]⟩

/-- Among ascending numbers there is another one where there are several. -/
theorem one_lt_length_iff {ns : List Nat} (h : ns.Pairwise (· < ·)) {n : Nat} (hn : n ∈ ns) :
    1 < ns.length ↔ ∃ m ∈ ns, m ≠ n := by
  have hnodup : ns.Nodup := h.imp ne_of_lt
  constructor
  · intro hlen
    by_contra hall
    push Not at hall
    rw [List.eq_replicate_of_mem hall, List.nodup_replicate] at hnodup
    exact absurd hnodup (not_le_of_gt hlen)
  · rintro ⟨m, hm, hne⟩
    have hpair : [m, n].Nodup := by simpa using hne
    have hsub : [m, n] ⊆ ns := by simpa using ⟨hm, hn⟩
    exact (List.subperm_of_subset hpair hsub).length_le

/-- The functions that are reported are those that are reused. -/
theorem mem_reused_iff {d : Document} (hd : Ascending Line.number d.lines)
    {f : List Char × Nat} :
    f ∈ (definitions [] d.lines).filter (fun f => 1 < (linesWith f.1 d).length) ↔ d.Reuses f := by
  rw [List.mem_filter, mem_definitions_iff hd, decide_eq_true_eq]
  have helsewhere (hf : f ∈ d.definedFunctions) : 1 < (linesWith f.1 d).length ↔
      ∃ l ∈ d.lines, l.number ≠ f.2 ∧ f.1 <:+: l.text := by
    rw [one_lt_length_iff (pairwise_linesWith hd f.1) (mem_linesWith_of_mem_functions hf)]
    simp only [mem_linesWith_iff]
    constructor
    · rintro ⟨_, ⟨l, hl, rfl, hname⟩, hne⟩
      exact ⟨l, hl, hne, hname⟩
    · rintro ⟨l, hl, hne, hname⟩
      exact ⟨_, ⟨l, hl, rfl, hname⟩, hne⟩
  constructor
  · rintro ⟨⟨-, hf, hfirst⟩, hlen⟩
    exact ⟨hf, hfirst, (helsewhere hf).1 hlen⟩
  · rintro ⟨hf, hfirst, hmore⟩
    exact ⟨⟨List.not_mem_nil, hf, hfirst⟩, (helsewhere hf).2 hmore⟩

/-- **The rule on reuse reports each function that is reused once, with all lines of its name.**
For every document that is loaded and in every session, the functions the rule looks at are those
that the scan for declarations finds.  The findings correspond to those whose name occurs on a line
besides its first definition, one for each name and in the order of these definitions, on which they
are anchored.  The lines that a message lists are all those on which the name occurs, ascending, and
the definition is one of them. -/
theorem evaluate_codeReuse (probe : LeakProbe) (path : Path) (bytes : List UInt8) (s : Session) :
    let d := Document.ofBytes path bytes
    (d.definedFunctions =
      (d.declarations.filter (·.kind == .function)).map fun x => (x.name, x.line)) ∧
    (∃ reused : List (List Char × Nat),
      (evaluate probe .codeReuse d s).1 = .ok (reused.map d.reuse) ∧
      (reused.map Prod.fst).Nodup ∧ (∀ f, f ∈ reused ↔ d.Reuses f) ∧
      reused.Pairwise (fun f f' => f.2 < f'.2) ∧ ∀ f ∈ reused, f.2 ∈ linesWith f.1 d) ∧
    ∀ name, (linesWith name d).Pairwise (· < ·) ∧
      ∀ n, n ∈ linesWith name d ↔ ∃ l ∈ d.lines, l.number = n ∧ name <:+: l.text := by
  intro d
  have hd : Ascending Line.number d.lines := Document.ascending_ofBytes path bytes
  refine ⟨d.definedFunctions_eq,
    ⟨(definitions [] d.lines).filter fun f => 1 < (linesWith f.1 d).length, rfl, ?_,
      fun f => mem_reused_iff hd, (ascending_definitions hd).filter _, fun f hf => ?_⟩,
    fun name => ⟨pairwise_linesWith hd name, fun n => mem_linesWith_iff⟩⟩
  · exact (nodup_definitions hd).sublist (List.filter_sublist.map _)
  · exact mem_linesWith_of_mem_functions ((mem_reused_iff hd).1 hf).defined

/-- A function that is defined twice and called between, one that is called before its definition,
and one that is not called. -/
theorem evaluate_codeReuse_redefined :
    let text := "int Fun(int a) \x7b\n  Get(a);\n\x7d\n" ++
      "int Get(int a) \x7b\n  Fun(a); // Fun\n\x7d\n" ++
      "int Fun(int b) \x7b\n\x7d\nvoid Help() \x7b\n\x7d\n"
    let d := Document.ofBytes ⟨"a.c"⟩ (Utf8.encode text.toList)
    let s := Session.start .c {} .ofLines .empty
    let found := (evaluate (fun _ _ disk => (.ok ⟨true, none⟩, disk)) .codeReuse d s).1
    d.definedFunctions =
        [("Fun".toList, 1), ("Get".toList, 4), ("Fun".toList, 7), ("Help".toList, 9)] ∧
      (∃ reused : List (List Char × Nat), found = .ok (reused.map d.reuse) ∧
        ("Fun".toList, 1) ∈ reused ∧ ("Fun".toList, 7) ∉ reused ∧ ("Help".toList, 9) ∉ reused) ∧
      found = .ok
        [.of .codeReuse 1 ("Function 'Fun' called multiple times. " ++
            "Consider refactoring for code reuse. Call locations: 1, 5, 7"),
          .of .codeReuse 4 ("Function 'Get' called multiple times. " ++
            "Consider refactoring for code reuse. Call locations: 2, 4")] := by
  intro text d s found
  have hdefined : d.definedFunctions =
      [("Fun".toList, 1), ("Get".toList, 4), ("Fun".toList, 7), ("Help".toList, 9)] := by
    decide +kernel
  obtain ⟨-, ⟨reused, hfound, -, hmem, -⟩, -⟩ :=
    evaluate_codeReuse (fun _ _ disk => (.ok ⟨true, none⟩, disk)) ⟨"a.c"⟩
      (Utf8.encode text.toList) s
  refine ⟨hdefined, ⟨reused, hfound, (hmem _).2 ⟨?_, fun n hn => ?_, by decide +kernel⟩,
    fun h => ?_, fun h => ?_⟩, congrArg Except.ok (by decide +kernel)⟩
  · rw [hdefined]
    exact List.mem_cons_self
  · have hfirst : ∀ f ∈ d.definedFunctions, 1 ≤ f.2 := by
      rw [hdefined]
      decide
    exact hfirst _ hn
  · have hfirst := ((hmem _).1 h).first 1 (hdefined ▸ List.mem_cons_self)
    revert hfirst
    decide
  · have helsewhere := ((hmem _).1 h).elsewhere
    revert helsewhere
    decide +kernel

end Rule

end StyleAudit
