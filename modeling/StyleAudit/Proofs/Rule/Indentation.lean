import Mathlib.Algebra.Group.Nat.Defs
import Mathlib.Data.List.Forall2
import StyleAudit.Proofs.Nesting.Scope
import StyleAudit.Rule.Check

/-!
# Indentation of well-nested sources

The rule on indentation asks for a number of spaces that depends on the event of a line, and the
event on all lines before it.  On sources that are well nested the rule can be said without events:
`Place.Misindented` looks at the place of a line alone, and the rule reports the lines with it and
no others (`Scope.indentationSpacing_reports`).

Two conventions meet here.  A line with a keyword is measured at the depth before it, and any other
line at the depth behind it, so that the line that closes a block is measured at the depth of the
block's head.  The rule overflows if a product of the width and a depth is no count; a source nests
at most as deep as it has lines, which keeps the products below the bound.
-/

namespace StyleAudit

/-! ### What is asked of a line -/

namespace Place

/-- The depth at which the line is measured. -/
def measuredDepth (language : Language) (p : Place) : Nat :=
  if Program.HasKeyword language p.line then p.before else p.behind

/-- The line stands in a function, is neither skipped nor a brace by itself, and does not start
with the spaces of its depth. -/
@[mk_iff]
structure Misindented (language : Language) (width : Nat) (p : Place) : Prop where
  /-- It stands in a function, and does not open it. -/
  role : p.role = .inside
  /-- It is not skipped. -/
  isCode : Text.isBlankOrComment (Text.trim p.line) = false
  /-- It is not only a closing brace. -/
  trim_ne : Text.trim p.line ≠ ['\x7d']
  /-- It does not start with enough spaces. -/
  not_prefix : ¬ List.replicate (width * p.measuredDepth language) ' ' <+: p.line

instance (language : Language) (width : Nat) (p : Place) :
    Decidable (p.Misindented language width) :=
  decidable_of_iff _ (misindented_iff language width p).symm

/-- What is said about the line if it is misindented. -/
def complaint (language : Language) (p : Place) : String :=
  match language.keywordIn? p.line with
  | some k => "Incorrect indentation for " ++ k ++ " statement."
  | none => "Incorrect indentation."

end Place

/-! ### What the rule says about a line -/

namespace Rule

theorem le_leadingSpaces_iff {n : Nat} {t : List Char} :
    n ≤ leadingSpaces t ↔ List.replicate n ' ' <+: t := by
  induction t generalizing n with
  | nil => simp [leadingSpaces]
  | cons c t ih =>
    cases n with
    | zero => simp
    | succ n =>
      rw [List.replicate_succ, List.cons_prefix_cons, ← ih, leadingSpaces, List.takeWhile_cons]
      by_cases hc : c = ' '
      · subst hc
        simp [leadingSpaces]
      · simp [hc, Ne.symm hc]

theorem leadingSpaces_lt_iff {n : Nat} {t : List Char} :
    leadingSpaces t < n ↔ ¬ List.replicate n ' ' <+: t := by
  rw [← le_leadingSpaces_iff, not_le]

/-- A closing brace by itself has no keyword. -/
theorem trim_ne_of_hasKeyword {language : Language} {line : List Char}
    (h : Program.HasKeyword language line) : Text.trim line ≠ ['\x7d'] := by
  obtain ⟨k, hk, hi⟩ := h
  have hall : ∀ k ∈ language.keywords, ¬ k.toList <:+: ['\x7d'] := by
    cases language <;> decide
  intro ht
  exact hall k hk (ht ▸ Text.infix_trim (Program.not_isBlank_of_mem_keywords hk) hi)

/-- At its place, a line is reported iff it is misindented. -/
theorem indentationProblem_event {language : Language} {width : Nat} {l : Line} {p : Place}
    (hl : l.text = p.line)
    (hopen : p.role = .inside → language.keywordIn? p.line = none →
      Text.trim p.line ≠ ['\x7b']) :
    indentationProblem width l (p.event language) =
      if p.Misindented language width then some (p.complaint language) else none := by
  by_cases hs : Text.isBlankOrComment (Text.trim p.line) = true
  · have hm : ¬ p.Misindented language width := fun h => by simpa [hs] using h.isCode
    rw [Place.event, if_pos hs, if_neg hm]
    rfl
  cases hrole : p.role with
  | outside =>
    have hm : ¬ p.Misindented language width := fun h => by simpa [hrole] using h.role
    rw [Place.event, if_neg hs, hrole, if_neg hm]
    rfl
  | head =>
    have hm : ¬ p.Misindented language width := fun h => by simpa [hrole] using h.role
    rw [Place.event, if_neg hs, hrole, if_neg hm]
    rfl
  | inside =>
    rw [Place.event, if_neg hs, hrole, Place.complaint]
    have hiff : p.Misindented language width ↔ Text.trim p.line ≠ ['\x7d'] ∧
        ¬ List.replicate (width * p.measuredDepth language) ' ' <+: p.line := by
      simp [Place.misindented_iff, hrole, hs]
    cases hw : language.keywordIn? p.line with
    | some k =>
      have hk : Program.HasKeyword language p.line :=
        Language.keywordIn?_isSome.1 (by rw [hw]; rfl)
      rw [Place.measuredDepth, if_pos hk, and_iff_right (trim_ne_of_hasKeyword hk),
        ← leadingSpaces_lt_iff] at hiff
      rw [← hl] at hiff
      exact if_congr hiff.symm rfl rfl
    | none =>
      have hk : ¬ Program.HasKeyword language p.line := fun hk => by
        have := Language.keywordIn?_isSome.2 hk
        rw [hw] at this
        cases this
      rw [Place.measuredDepth, if_neg hk, ← leadingSpaces_lt_iff] at hiff
      have hb : Text.trim p.line ≠ ['\x7b'] := hopen hrole hw
      rw [← hl] at hiff hb
      by_cases hc : Text.trim l.text = ['\x7d']
      · have hnone : measuredDepth? l (.body p.behind) = none := if_pos (.inr hc)
        rw [if_neg fun hm => (hiff.1 hm).1 hc, indentationProblem, hnone]
        rfl
      · have hsome : measuredDepth? l (.body p.behind) = some p.behind := if_neg (not_or.2 ⟨hb, hc⟩)
        rw [indentationProblem, hsome]
        exact if_congr (hiff.trans (and_iff_right hc)).symm rfl rfl

/-- At its place, a line is measured at the depth before it or behind it. -/
theorem eq_of_measuredDepth?_event {language : Language} {l : Line} {p : Place} {depth : Nat}
    (h : measuredDepth? l (p.event language) = some depth) :
    depth = p.before ∨ depth = p.behind := by
  unfold Place.event at h
  split at h
  · cases h
  · cases hrole : p.role with
    | outside => rw [hrole] at h; cases h
    | head => rw [hrole] at h; cases h
    | inside =>
      rw [hrole] at h
      cases hw : language.keywordIn? p.line with
      | some k =>
        simp only [hw] at h
        exact .inl (Option.some.inj h).symm
      | none =>
        simp only [hw, measuredDepth?] at h
        split at h
        · cases h
        · exact .inr (Option.some.inj h).symm

/-! ### When the rule has an answer -/

/-- A line with this event is measured at this depth: a line with a keyword, or another line of a
body that is not a brace by itself. -/
inductive Measures (l : Line) : LineEvent → Nat → Prop where
  /-- A keyword stands in the line. -/
  | keyword (word : String) (depth : Nat) : Measures l (.keyword word depth) depth
  /-- No keyword stands in the line, and it is not only a brace. -/
  | body {depth : Nat} (hopen : l.trimmed ≠ ['\x7b']) (hclose : l.trimmed ≠ ['\x7d']) :
    Measures l (.body depth) depth

theorem measuredDepth?_eq_some_iff {l : Line} {e : LineEvent} {depth : Nat} :
    measuredDepth? l e = some depth ↔ Measures l e depth := by
  constructor
  · intro h
    cases e with
    | keyword word n =>
      obtain rfl : n = depth := Option.some.inj h
      exact .keyword word n
    | body n =>
      rw [measuredDepth?] at h
      split_ifs at h with hbrace
      cases h
      exact .body (fun ho => hbrace (.inl ho)) fun hc => hbrace (.inr hc)
    | skipped => cases h
    | outside => cases h
    | functionOpened => cases h
  · rintro (_ | ⟨ho, hc⟩)
    · rfl
    · exact if_neg (not_or.2 ⟨ho, hc⟩)

theorem indentationFits_iff {width : Nat} {d : Document} {events : List LineEvent} :
    indentationFits width d events ↔ ∀ p ∈ d.lines.zip events, ∀ depth,
      measuredDepth? p.1 p.2 = some depth → width * depth < countBound := by
  simp only [indentationFits, List.all_eq_true, Option.all_eq_true, decide_eq_true_eq]

/-- Some line is measured at a depth at which the spaces that a width asks for are no count. -/
def Overflows (width : Nat) (d : Document) (events : List LineEvent) : Prop :=
  ∃ p ∈ d.lines.zip events, ∃ depth, Measures p.1 p.2 depth ∧ 2 ^ 64 ≤ width * depth

theorem indentationFits_iff_not_overflows {width : Nat} {d : Document} {events : List LineEvent} :
    indentationFits width d events ↔ ¬ Overflows width d events := by
  simp only [indentationFits_iff, measuredDepth?_eq_some_iff, Overflows, not_exists, not_and,
    not_le]
  rfl

theorem fst_evaluateIndentation (d : Document) (s : Session) :
    (evaluateIndentation d s).1 =
      if indentationFits s.thresholds.indentWidth d (s.observeAll d).1 then
        .ok (indentationSpacing s.thresholds.indentWidth d (s.observeAll d).1)
      else .error .overflow := by
  simp only [evaluateIndentation]
  split
  · rename_i h
    exact (if_pos h).symm
  · rename_i h
    exact (if_neg h).symm

/-- The rule has no answer iff the spaces that it asks for on some line are no count. -/
theorem evaluateIndentation_eq_overflow_iff {d : Document} {s : Session} :
    (evaluateIndentation d s).1 = .error .overflow ↔
      Overflows s.thresholds.indentWidth d (s.observeAll d).1 := by
  rw [fst_evaluateIndentation, ← not_iff_not, ← indentationFits_iff_not_overflows]
  split_ifs with h <;> simp [h]

end Rule

/-! ### What the rule reports -/

namespace Scope

variable {language : Language}

/-- Events are those of the places, in every session for the language. -/
theorem observeAll_session (source : Scope language .source) {d : Document} {s : Session}
    (hd : d.lines.map (·.text) = source.lines) (hs : s.nesting.keywords = language.keywords) :
    (s.observeAll d).1 = (source.places 0).map (Place.event language) := by
  have hreset : s.nesting.reset = Nesting.atDepth language.keywords 0 := by
    rw [Nesting.reset, hs]
    rfl
  rw [Session.observeAll, hreset, hd, lines, source.observeAll_places (by simp)]

/-- A line without a keyword that does not open a function opens nothing. -/
theorem trim_ne_of_mem_places (source : Scope language .source) {p : Place}
    (hp : p ∈ source.places 0) (hrole : p.role = .inside)
    (hw : language.keywordIn? p.line = none) : Text.trim p.line ≠ ['\x7b'] := by
  intro ht
  obtain ⟨opens, closes, ⟨hb, -⟩, hopens⟩ :=
    source.exists_edge_of_mem_places hp (by rw [ht]; decide)
  have ho : opens = true := by
    rw [← hb.endsIn_trim, ht]
    decide
  rcases hopens ho with hhead | hk
  · rw [hrole] at hhead
    cases hhead
  · have := Language.keywordIn?_isSome.2 hk
    rw [hw] at this
    cases this

/-- **The rule on indentation reports the misindented lines of a well-nested source, and no
others.**  Let a document consist of the lines of a source of any language, with any blanks around
them, and let the product of the width and the number of lines be a count.  In every session for the
language, the findings are the lines inside functions, but for their heads, lines that are skipped
and closing braces by themselves, that do not start with the spaces of their depth: the depth before
the line if a keyword stands in it, and the depth behind it otherwise.  They are in the order of the
lines, and name the first keyword. -/
theorem indentationSpacing_reports (source : Scope language .source) {d : Document} {s : Session}
    (hd : d.lines.map (·.text) = source.lines) (hs : s.nesting.keywords = language.keywords)
    (hw : s.thresholds.indentWidth * d.size < countBound) (probe : LeakProbe) :
    (Rule.evaluate probe .indentationSpacing d s).1 =
      .ok (((d.lines.zip (source.places 0)).filter fun x =>
          x.2.Misindented language s.thresholds.indentWidth).map fun x =>
        .of .indentationSpacing x.1.number (x.2.complaint language)) := by
  have hplaces : List.Forall₂ (fun l p => l.text = p.line) d.lines (source.places 0) :=
    List.forall₂_map_left_iff.1 <| List.forall₂_map_right_iff.1 <| by
      rw [List.forall₂_eq_eq_eq]
      exact hd
  -- no depth is greater than the number of lines, so that every product is a count
  have hfits : Rule.indentationFits s.thresholds.indentWidth d
      ((source.places 0).map (Place.event language)) := by
    refine Rule.indentationFits_iff.2 fun x hx depth hdepth => ?_
    rw [List.zip_map_right] at hx
    obtain ⟨⟨l, p⟩, hlp, rfl⟩ := List.mem_map.1 hx
    rw [Prod.map_apply, id_eq] at hdepth
    have hle := source.le_of_mem_places (List.of_mem_zip hlp).2
    rw [Nat.zero_add, ← hplaces.length_eq] at hle
    have hdepth : depth ≤ d.size := by
      rcases Rule.eq_of_measuredDepth?_event hdepth with rfl | rfl
      · exact hle.1
      · exact hle.2
    exact (Nat.mul_le_mul_left _ hdepth).trans_lt hw
  rw [Rule.evaluate, Rule.fst_evaluateIndentation, source.observeAll_session hd hs, if_pos hfits,
    Rule.indentationSpacing, List.zip_map_right,
    List.filterMap_map, ← List.filterMap_eq_map', List.filterMap_filter]
  refine congrArg Except.ok (List.filterMap_congr ?_)
  rintro ⟨l, p⟩ hx
  have hproblem := @Rule.indentationProblem_event _ s.thresholds.indentWidth _ _
    ((List.forall₂_iff_zip.1 hplaces).2 hx)
    (source.trim_ne_of_mem_places (List.of_mem_zip hx).2)
  simp only [Function.comp_apply, Prod.map_apply, id_eq, hproblem, decide_eq_true_eq]
  split_ifs <;> rfl

/-- A function that a directive opens, with a block that is reopened. -/
def directed : Scope .c .source :=
  .function ⟨"#define F(a) \x7b".toList, by decide⟩
    (.neutral ⟨"/* \x7b".toList, by decide⟩ <|
      .block (by decide) ⟨"  if (a) \x7b".toList, by decide⟩
        (.neutral ⟨"        double d;".toList, by decide⟩ <|
          .reopened ⟨"    \x7d else \x7b".toList, by decide⟩ <|
          .neutral ⟨"       g();".toList, by decide⟩ .done)
        ⟨"    \x7d;".toList, by decide⟩ .done)
    ⟨"\x7d".toList, by decide⟩
    (.neutral ⟨"int x;".toList, by decide⟩ .done)

theorem indentationSpacing_reports_directed :
    let d := Document.ofBytes ⟨"a.c"⟩ (Utf8.encode (['\n'].intercalate directed.lines))
    let s := Session.start .c {} .ofLines .empty
    d.lines.map (·.text) = directed.lines ∧
      (Rule.evaluate (fun _ _ disk => (.ok ⟨true, none⟩, disk)) .indentationSpacing d s).1 =
        .ok [.of .indentationSpacing 3 "Incorrect indentation for if statement.",
          .of .indentationSpacing 5 "Incorrect indentation for else statement.",
          .of .indentationSpacing 6 "Incorrect indentation."] := by
  intro d s
  have hd : d.lines.map (·.text) = directed.lines := by decide +kernel
  refine ⟨hd, ?_⟩
  rw [indentationSpacing_reports directed hd rfl (by decide +kernel)]
  refine congrArg Except.ok ?_
  decide +kernel

end Scope

end StyleAudit
