import Mathlib.Data.Option.Basic
import StyleAudit.Proofs.Battery.Account
import StyleAudit.Proofs.Rule.Label

/-!
# Isolation of rules

The rules of a run share one session, which keeps the disk, the estimate of nesting, the established
module and the declarations.  This file shows that no rule sees what another one left there:

* `Session.Follows` describes the sessions that rules may leave behind.  Every rule of the catalog
  stays among them (`Rule.evaluate_follows`).  If tools give the same results each time they are
  asked (`Session.Steady`), a rule answers in each of them as it does in the first one, but for the
  message of a failure (`Rule.outline_evaluate`);
* so the findings and the failing rules of a run are those of its rules, each evaluated alone
  (`Battery.run_catalog_diagnostics`, `Battery.run_catalog_failures`), and reordering the rules
  reorders the report and changes nothing else (`Battery.run_catalog_isolated`);
* two runs on different documents can be compared rule by rule (`Battery.run_catalog_filter_map`).

Messages of failures do depend on the order: the first rule that asks for declarations gets the
failure of their source, and later ones get one that repeats its message.
-/

namespace StyleAudit

/-! ### Nesting -/

namespace Nesting

theorem reset_close (n : Nesting) (t : List Char) : (n.close t).reset = n.reset := by
  unfold close
  split <;> rfl

theorem reset_enter (n : Nesting) (t : List Char) : (n.enter t).reset = n.reset := by
  unfold enter
  split <;> rfl

theorem reset_step (n : Nesting) (t : List Char) : (n.step t).2.reset = n.reset := by
  unfold step
  split
  · rfl
  · split
    · split
      · rfl
      · exact reset_close n t
    · split
      · exact (reset_close _ t).trans (reset_enter n t)
      · exact reset_close n t

/-- Observing lines changes nothing that a reset does not restore. -/
theorem reset_observeAll (n : Nesting) (lines : List (List Char)) :
    (n.observeAll lines).2.reset = n.reset := by
  induction lines generalizing n with
  | nil => rfl
  | cons line rest ih =>
    rw [observeAll]
    exact (ih _).trans (reset_step n _)

end Nesting

/-! ### Answers without messages -/

namespace Fault

variable {α β : Type} {x : Except Fault α}

/-- An answer without the message of a failure: nothing if a count overflows, and else the result,
if there is one. -/
def outline : Except Fault α → Option (Option α)
  | .ok a => some (some a)
  | .error (.failure _) => some none
  | .error .overflow => none

theorem outline_map (f : α → β) (x : Except Fault α) :
    outline (x.map f) = (outline x).map (Option.map f) := by
  rcases x with (_ | _) | _ <;> rfl

theorem outline_eq_some_some_iff {a : α} : outline x = some (some a) ↔ x = .ok a := by
  rcases x with (_ | _) | _ <;> simp [outline]

theorem outline_eq_none_iff : outline x = none ↔ x = .error .overflow := by
  rcases x with (_ | _) | _ <;> simp [outline]

end Fault

/-- The rules on names, in catalog order.  They ask for declarations. -/
def RuleId.naming : List RuleId :=
  [.functionCase, .variableCase, .pointerName, .moduleName, .typeCase]

/-! ### Sessions -/

namespace Session

/-- A session in which no rule has run yet, with any keywords for the estimate of nesting. -/
def fresh (language : Language) (thresholds : Thresholds) (source : DeclarationSource)
    (keywords : List String) (disk : Disk) : Session where
  language
  thresholds
  source
  nesting := ⟨keywords, 0, false⟩
  disk

/-- The disks that there may be behind the first session if the source of declarations and the
search for leaks are asked any number of times. -/
inductive Asked (probe : LeakProbe) (d : Document) (s₀ : Session) : Disk → Prop where
  /-- Nothing was asked. -/
  | start : Asked probe d s₀ s₀.disk
  /-- The source of declarations was asked last. -/
  | declarations {disk : Disk} : Asked probe d s₀ disk → Asked probe d s₀ (s₀.source d disk).2
  /-- The search for leaks was asked last. -/
  | leaks {disk : Disk} :
    Asked probe d s₀ disk → Asked probe d s₀ (probe d.path s₀.language disk).2

/-- What rules ask for has the same result each time, whatever asking before did to the disk. -/
structure Steady (s₀ : Session) (probe : LeakProbe) (d : Document) (rules : List RuleId) :
    Prop where
  /-- The source of declarations answers as it does at first. -/
  declarations : ∀ disk, Asked probe d s₀ disk → (s₀.source d disk).1 = (s₀.source d s₀.disk).1
  /-- If leaks are searched for, the search answers as it does at first. -/
  leaks : .memoryLeak ∈ rules → ∀ disk, Asked probe d s₀ disk →
    (probe d.path s₀.language disk).1 = (probe d.path s₀.language s₀.disk).1

/-- What rules find and do not change: the language, the thresholds, and what a reset of the
estimate of nesting restores. -/
structure Keeps (s₀ s : Session) : Prop where
  /-- The language is as it was. -/
  language : s.language = s₀.language
  /-- The thresholds are as they were. -/
  thresholds : s.thresholds = s₀.thresholds
  /-- A reset restores the estimate of nesting. -/
  nesting : s.nesting.reset = s₀.nesting.reset

/-- Rules on `d` may leave `s` behind if the first of them starts in `s₀`: what they do not change
is as it was, the disk is one that asking may leave, and declarations that are known are those of
the source. -/
structure Follows (probe : LeakProbe) (d : Document) (s₀ s : Session) : Prop extends
    Keeps s₀ s where
  /-- Declarations come from the same source. -/
  source : s.source = s₀.source
  /-- The disk is one that asking may leave. -/
  disk : Asked probe d s₀ s.disk
  /-- Declarations were not asked for yet, or what the source gave is kept. -/
  known : s.known = none ∨
    ∃ disk, Asked probe d s₀ disk ∧ s.known = kept (s₀.source d disk).1

variable {probe : LeakProbe} {d : Document} {s₀ s : Session} {rules : List RuleId}

/-- The lines of the document give the same declarations each time. -/
theorem steady_ofLines (hs : s₀.source = .ofLines) (hl : .memoryLeak ∉ rules) :
    s₀.Steady probe d rules :=
  ⟨fun disk _ => by rw [hs]; rfl, fun h => absurd h hl⟩

theorem kept_eq_some_ok_iff {x : Except Fault (List Declaration)} {found : List Declaration} :
    kept x = some (.ok found) ↔ x = .ok found := by
  rcases x with (_ | _) | _ <;> simp [kept]

theorem kept_eq_some_error {x : Except Fault (List Declaration)} {message : String}
    (h : kept x = some (.error message)) : Fault.outline x = some none := by
  rcases x with (_ | _) | _ <;> simp_all [kept, Fault.outline]

theorem Keeps.refl (s : Session) : Keeps s s := ⟨rfl, rfl, rfl⟩

theorem Keeps.observeAll (h : Keeps s₀ s) (d : Document) :
    (s.observeAll d).1 = (s₀.observeAll d).1 ∧ Keeps s₀ (s.observeAll d).2 := by
  refine ⟨?_, h.language, h.thresholds, ?_⟩
  · simp only [Session.observeAll, h.nesting]
  · exact (Nesting.reset_observeAll _ _).trans h.nesting

theorem Keeps.declarations (h : Keeps s₀ s) (d : Document) : Keeps s₀ (s.declarations d).2 := by
  unfold Session.declarations
  split
  · exact h
  · exact h
  · exact ⟨h.language, h.thresholds, h.nesting⟩

theorem Follows.refl (h : s₀.known = none) : Follows probe d s₀ s₀ :=
  ⟨.refl s₀, rfl, .start, .inl h⟩

/-- A session in which asking finds the same follows as well. -/
theorem Follows.of_eq {s' : Session} (h : Follows probe d s₀ s) (hkeeps : Keeps s₀ s')
    (hsource : s'.source = s.source) (hdisk : s'.disk = s.disk) (hknown : s'.known = s.known) :
    Follows probe d s₀ s' where
  toKeeps := hkeeps
  source := hsource.trans h.source
  disk := by rw [hdisk]; exact h.disk
  known := by rw [hknown]; exact h.known

theorem Follows.declarations (h : Follows probe d s₀ s) :
    Follows probe d s₀ (s.declarations d).2 := by
  unfold Session.declarations
  split
  · exact h
  · exact h
  · rw [h.source]
    exact ⟨⟨h.language, h.thresholds, h.nesting⟩, rfl, h.disk.declarations,
      .inr ⟨s.disk, h.disk, rfl⟩⟩

/-- What is known of declarations is what the source answers. -/
theorem Follows.exists_of_known (h : Follows probe d s₀ s)
    {found : Except String (List Declaration)} (hk : s.known = some found) :
    ∃ disk, Asked probe d s₀ disk ∧ kept (s₀.source d disk).1 = some found := by
  rcases h.known with h | ⟨disk, ha, h⟩
  · rw [h] at hk
    cases hk
  · exact ⟨disk, ha, h.symm.trans hk⟩

/-- Asking for declarations gives those of the source, asked for before or not. -/
theorem Follows.outline_declarations (h : Follows probe d s₀ s)
    (hsteady : s₀.Steady probe d rules) :
    Fault.outline (s.declarations d).1 = Fault.outline (s₀.source d s₀.disk).1 := by
  unfold Session.declarations
  -- who asks first gets the failure itself, who asks later gets one made from its message
  split
  · rename_i found hk
    obtain ⟨disk, ha, hkept⟩ := h.exists_of_known hk
    rw [← hsteady.declarations disk ha, kept_eq_some_ok_iff.1 hkept]
  · rename_i message hk
    obtain ⟨disk, ha, hkept⟩ := h.exists_of_known hk
    rw [← hsteady.declarations disk ha, kept_eq_some_error hkept]
    rfl
  · rw [h.source]
    exact congrArg Fault.outline (hsteady.declarations _ h.disk)

/-- If declarations come from the lines of the document, they are those of the document. -/
theorem Follows.exists_declarations (h : Follows probe d s₀ s) (hs : s₀.source = .ofLines) :
    ∃ s', s.declarations d = (.ok d.declarations, s') ∧ s'.established = s.established := by
  have hfound : Fault.outline (s.declarations d).1 = some (some d.declarations) := by
    have hsteady : s₀.Steady probe d [] := steady_ofLines hs List.not_mem_nil
    rw [h.outline_declarations hsteady, hs]
    rfl
  refine ⟨(s.declarations d).2, Prod.ext (Fault.outline_eq_some_some_iff.1 hfound) rfl, ?_⟩
  unfold Session.declarations
  split <;> rfl

end Session

/-! ### Rules -/

namespace Rule

open Session (Keeps Follows)

variable {probe : LeakProbe} {d : Document} {s₀ s : Session}

theorem outline_onDeclarations (f : List Declaration → List Diagnostic) (d : Document)
    (s : Session) :
    Fault.outline (onDeclarations f d s).1 =
      (Fault.outline (s.declarations d).1).map (Option.map f) :=
  Fault.outline_map f _

theorem outline_evaluateModule (d : Document) (s : Session) :
    Fault.outline (evaluateModule d s).1 =
      (Fault.outline (s.declarations d).1).map (Option.map moduleName) := by
  unfold evaluateModule
  rcases s.declarations d with ⟨(_ | _) | _, _⟩ <;> rfl

theorem evaluateModule_keeps (h : Keeps s₀ s) : Keeps s₀ (evaluateModule d s).2 := by
  have hd := h.declarations d
  unfold evaluateModule
  rcases hs : s.declarations d with ⟨e | found, s'⟩
  · rw [hs] at hd
    exact hd
  · rw [hs] at hd
    exact ⟨hd.language, hd.thresholds, hd.nesting⟩

theorem evaluateIndentation_keeps (h : Keeps s₀ s) :
    (evaluateIndentation d s).1 = (evaluateIndentation d s₀).1 ∧
      Keeps s₀ (evaluateIndentation d s).2 := by
  obtain ⟨he, hf⟩ := h.observeAll d
  have hf₀ : (s₀.observeAll d).2.thresholds = s₀.thresholds := rfl
  simp only [evaluateIndentation, he, hf.thresholds, hf₀]
  split
  · exact ⟨rfl, hf⟩
  · exact ⟨rfl, hf⟩

theorem evaluateFunctionCount_keeps (h : Keeps s₀ s) :
    (evaluateFunctionCount d s).1 = (evaluateFunctionCount d s₀).1 ∧
      Keeps s₀ (evaluateFunctionCount d s).2 := by
  unfold evaluateFunctionCount
  split
  · exact ⟨rfl, h⟩
  · rw [h.language]
    split
    · exact ⟨by rw [h.thresholds], h⟩
    · obtain ⟨he, hf⟩ := h.observeAll d
      refine ⟨?_, hf⟩
      change Except.ok (functionCount s.thresholds (openingLines d (s.observeAll d).1)) =
        Except.ok (functionCount s₀.thresholds (openingLines d (s₀.observeAll d).1))
      rw [he, h.thresholds]

theorem evaluateLeak_keeps (h : Keeps s₀ s) : Keeps s₀ (evaluateLeak probe d s).2 := by
  unfold evaluateLeak
  split
  · exact h
  · exact ⟨h.language, h.thresholds, h.nesting⟩

theorem evaluate_keeps (probe : LeakProbe) (r : RuleId) (h : Keeps s₀ s) :
    Keeps s₀ (evaluate probe r d s).2 := by
  cases r with
  | indentationSpacing => exact (evaluateIndentation_keeps h).2
  | functionCase | variableCase | pointerName | typeCase => exact h.declarations d
  | moduleName => exact evaluateModule_keeps h
  | functionCount => exact (evaluateFunctionCount_keeps h).2
  | memoryLeak => exact evaluateLeak_keeps h
  | _ => exact h

/-- Rules that ask for nothing find the same wherever what they find is kept. -/
theorem evaluate_of_keeps (probe : LeakProbe) {r : RuleId} (hn : r ∉ RuleId.naming)
    (hl : r ≠ .memoryLeak) (h : Keeps s₀ s) :
    (evaluate probe r d s).1 = (evaluate probe r d s₀).1 := by
  cases r with
  | functionCase | variableCase | pointerName | moduleName | typeCase =>
    exact absurd (by decide) hn
  | memoryLeak => exact absurd rfl hl
  | indentationSpacing => exact (evaluateIndentation_keeps h).1
  | functionCount => exact (evaluateFunctionCount_keeps h).1
  | totalLines => simp only [evaluate, h.thresholds]
  | repetition => simp only [evaluate, evaluateRepetition, h.thresholds]
  -- the other rules read the document and nothing else
  | _ => rfl

/-- Rules that ask for nothing leave alone what asking needs. -/
theorem evaluate_asks_nothing (probe : LeakProbe) {r : RuleId} (hn : r ∉ RuleId.naming)
    (hl : r ≠ .memoryLeak) :
    (evaluate probe r d s).2.source = s.source ∧ (evaluate probe r d s).2.disk = s.disk ∧
      (evaluate probe r d s).2.known = s.known := by
  cases r with
  | functionCase | variableCase | pointerName | moduleName | typeCase =>
    exact absurd (by decide) hn
  | memoryLeak => exact absurd rfl hl
  | indentationSpacing =>
    simp only [evaluate, evaluateIndentation]
    split <;> exact ⟨rfl, rfl, rfl⟩
  | functionCount =>
    simp only [evaluate, evaluateFunctionCount]
    split_ifs <;> exact ⟨rfl, rfl, rfl⟩
  | _ => exact ⟨rfl, rfl, rfl⟩

/-- A rule does to the disk what the source of declarations does, or the search for leaks if it is
that rule, or nothing. -/
theorem evaluate_frame {R : Disk → Disk → Prop} {r : RuleId} (hrefl : ∀ disk, R disk disk)
    (hsource : ∀ disk, R disk (s.source d disk).2)
    (hprobe : r = .memoryLeak → ∀ path language disk, R disk (probe path language disk).2) :
    (evaluate probe r d s).2.source = s.source ∧ R s.disk (evaluate probe r d s).2.disk := by
  have hd : (s.declarations d).2.source = s.source ∧ R s.disk (s.declarations d).2.disk := by
    unfold Session.declarations
    split
    · exact ⟨rfl, hrefl _⟩
    · exact ⟨rfl, hrefl _⟩
    · exact ⟨rfl, hsource _⟩
  by_cases hr : r ∉ RuleId.naming ∧ r ≠ .memoryLeak
  · obtain ⟨hsame, hdisk, -⟩ := evaluate_asks_nothing (d := d) (s := s) probe hr.1 hr.2
    exact ⟨hsame, hdisk ▸ hrefl _⟩
  cases r with
  | functionCase | variableCase | pointerName | typeCase => exact hd
  | moduleName =>
    simp only [evaluate, evaluateModule]
    split
    · rename_i hs
      rwa [hs] at hd
    · rename_i hs
      rw [hs] at hd
      exact hd
  | memoryLeak =>
    simp only [evaluate, evaluateLeak]
    split
    · exact ⟨rfl, hrefl _⟩
    · exact ⟨rfl, hprobe rfl _ _ _⟩
  | _ => exact absurd (by decide) hr

/-- Rules stay among the sessions that rules may leave behind. -/
theorem evaluate_follows (r : RuleId) (h : Follows probe d s₀ s) :
    Follows probe d s₀ (evaluate probe r d s).2 := by
  have hkeeps := evaluate_keeps (d := d) probe r h.toKeeps
  by_cases hr : r ∉ RuleId.naming ∧ r ≠ .memoryLeak
  · obtain ⟨hsource, hdisk, hknown⟩ := evaluate_asks_nothing (d := d) (s := s) probe hr.1 hr.2
    exact h.of_eq hkeeps hsource hdisk hknown
  have hd := h.declarations
  cases r with
  | functionCase | variableCase | pointerName | typeCase => exact hd
  | moduleName =>
    simp only [evaluate, evaluateModule] at hkeeps ⊢
    split
    · rename_i hs
      rw [hs] at hd
      exact hd
    · rename_i hs
      rw [hs] at hd hkeeps
      exact hd.of_eq hkeeps rfl rfl rfl
  | memoryLeak =>
    simp only [evaluate, evaluateLeak] at hkeeps ⊢
    split
    · exact h
    · rename_i he
      rw [if_neg he] at hkeeps
      refine ⟨hkeeps, h.source, ?_, h.known⟩
      rw [h.language]
      exact h.disk.leaks
  | _ => exact absurd (by decide) hr

theorem outline_evaluateLeak {rules : List RuleId} (hsteady : s₀.Steady probe d rules)
    (hr : .memoryLeak ∈ rules) (h : Follows probe d s₀ s) :
    (evaluateLeak probe d s).1 = (evaluateLeak probe d s₀).1 := by
  unfold evaluateLeak
  split
  · rfl
  · simp only [h.language, hsteady.leaks hr _ h.disk]

/-- **Rules do not see each other.**  A rule finds in a session that others left behind what it
finds in the first one. -/
theorem outline_evaluate {rules : List RuleId} {r : RuleId} (hsteady : s₀.Steady probe d rules)
    (hr : r ∈ rules) (h₀ : s₀.known = none) (h : Follows probe d s₀ s) :
    Fault.outline (evaluate probe r d s).1 = Fault.outline (evaluate probe r d s₀).1 := by
  have hfirst : Follows probe d s₀ s₀ := .refl h₀
  have hdeclared : Fault.outline (s.declarations d).1 = Fault.outline (s₀.declarations d).1 :=
    (h.outline_declarations hsteady).trans (hfirst.outline_declarations hsteady).symm
  cases r with
  | functionCase | variableCase | pointerName | typeCase =>
    simp only [evaluate, outline_onDeclarations, hdeclared]
  | moduleName => simp only [evaluate, outline_evaluateModule, hdeclared]
  | memoryLeak => simp only [evaluate, outline_evaluateLeak hsteady hr h]
  | _ => exact congrArg Fault.outline (evaluate_of_keeps probe (by decide) (by decide) h.toKeeps)

/-! ### Declarations from the lines of the document -/

section OfLines

variable (hs : s₀.source = .ofLines)
include hs

/-- Only the rule on indentation overflows if declarations come from the lines of the document. -/
theorem evaluate_ne_overflow {r : RuleId} (hr : r ≠ .indentationSpacing)
    (h : Follows probe d s₀ s) : (evaluate probe r d s).1 ≠ .error .overflow := by
  obtain ⟨s', hd, -⟩ := h.exists_declarations hs
  cases r with
  | functionCase | variableCase | pointerName | typeCase =>
    simp [evaluate, onDeclarations, hd, Except.map]
  | moduleName => simp [evaluate, evaluateModule, hd]
  | indentationSpacing => exact absurd rfl hr
  | functionCount =>
    simp only [evaluate, evaluateFunctionCount]
    split_ifs <;> simp
  | repetition =>
    simp only [evaluate, evaluateRepetition]
    split_ifs <;> simp
  | memoryLeak =>
    simp only [evaluate, evaluateLeak]
    split_ifs
    · simp
    · rcases probe d.path s.language s.disk with ⟨_ | _, _⟩ <;>
        simp [Except.mapError, Except.map]
  | _ => simp [evaluate]

/-- The rule on modules establishes the module of the declarations, and keeps the one that was
established if there is none.  Other rules establish nothing. -/
theorem evaluate_established (h : Follows probe d s₀ s) (r : RuleId) :
    (evaluate probe r d s).2.established =
      if r = .moduleName then (moduleOf d.declarations).or s.established else s.established := by
  obtain ⟨s', hd, hkept⟩ := h.exists_declarations hs
  cases r with
  | moduleName => simp only [evaluate, evaluateModule, hd, hkept, if_pos]
  | functionCase | variableCase | pointerName | typeCase =>
    simp only [evaluate, onDeclarations, hd, hkept, reduceCtorEq, if_false]
  | indentationSpacing =>
    simp only [evaluate, evaluateIndentation, reduceCtorEq, if_false]
    split_ifs <;> rfl
  | functionCount =>
    simp only [evaluate, evaluateFunctionCount, reduceCtorEq, if_false]
    split_ifs <;> rfl
  | memoryLeak =>
    simp only [evaluate, evaluateLeak, reduceCtorEq, if_false]
    split_ifs <;> rfl
  | _ => rfl

end OfLines

end Rule

/-! ### Batteries of rules -/

namespace Report

/-- Two reports say the same in different orders: counts and the flag are equal, findings are
reordered but not those of one rule, and the same rules failed. -/
structure Reordered (a b : Report) : Prop where
  /-- The counts are equal. -/
  counts : a.counts = b.counts
  /-- The flags are equal. -/
  hasIssues : a.hasIssues = b.hasIssues
  /-- The findings are reordered. -/
  diagnostics : a.diagnostics.Perm b.diagnostics
  /-- The findings of each rule are in the same order. -/
  ofRule : ∀ r, a.diagnostics.filter (·.rule = r) = b.diagnostics.filter (·.rule = r)
  /-- The same rules failed, equally often. -/
  failures : (a.failures.map (·.rule)).Perm (b.failures.map (·.rule))

end Report

namespace Battery

open Session (Follows)

variable {d : Document} {s₀ s : Session} (probe : LeakProbe)

theorem map_eq_of_rel {α β γ : Type} {R : α → β → Prop} {a : Option α} {b : Option β} {f : α → γ}
    {g : β → γ} (h : Option.Rel R a b) (hR : ∀ x y, R x y → f x = g y) : a.map f = b.map g := by
  cases h with
  | none => rfl
  | some h => exact congrArg some (hR _ _ h)

theorem catalog_ownLabel (rules : List RuleId) (d : Document) :
    ∀ c ∈ rules.map (Check.catalog probe), c.OwnLabel d := by
  intro c hc s found hf f hm
  obtain ⟨r, -, rfl⟩ := List.mem_map.1 hc
  exact (Rule.evaluate_label hf).rule_eq hm

theorem answers_catalog_cons (r : RuleId) (rules : List RuleId) (s : Session) :
    answers d ((r :: rules).map (Check.catalog probe)) s =
      if r.appliesTo d.language then
        (r, (Rule.evaluate probe r d s).1) ::
          answers d (rules.map (Check.catalog probe)) (Rule.evaluate probe r d s).2
      else answers d (rules.map (Check.catalog probe)) s :=
  rfl

/-- An answer in a run of rules is that of its rule in a session of which everything holds that the
rules preserve. -/
theorem exists_of_mem_answers {I : Session → Prop} {rules : List RuleId}
    (hI : ∀ r ∈ rules, ∀ s, I s → I (Rule.evaluate probe r d s).2) (h : I s)
    {a : RuleId × Findings} (ha : a ∈ answers d (rules.map (Check.catalog probe)) s) :
    a.1 ∈ rules ∧ a.1.appliesTo d.language ∧
      ∃ s', I s' ∧ a.2 = (Rule.evaluate probe a.1 d s').1 := by
  induction rules generalizing s with
  | nil => simp [answers] at ha
  | cons r rules ih =>
    have ih {s : Session} (h : I s) :=
      ih (s := s) (fun r' hr => hI r' (List.mem_cons_of_mem _ hr)) h
    rw [answers_catalog_cons] at ha
    split_ifs at ha with happlies
    · rcases List.mem_cons.1 ha with rfl | ha
      · exact ⟨List.mem_cons_self, happlies, s, h, rfl⟩
      · obtain ⟨hr, hanswer⟩ := ih (hI r List.mem_cons_self s h) ha
        exact ⟨List.mem_cons_of_mem _ hr, hanswer⟩
    · obtain ⟨hr, hanswer⟩ := ih h ha
      exact ⟨List.mem_cons_of_mem _ hr, hanswer⟩

/-- A run ends in a session of which everything holds that the rules preserve. -/
theorem run_catalog_preserves {I : Session → Prop} {rules : List RuleId}
    (hI : ∀ r ∈ rules, ∀ s, I s → I (Rule.evaluate probe r d s).2) (h : I s) :
    I (Battery.run (rules.map (Check.catalog probe)) d s).2 := by
  suffices hrun : ∀ report s, I s → I (runFrom d report s (rules.map (Check.catalog probe))).2 from
    hrun _ s h
  induction rules with
  | nil => exact fun _ _ h => h
  | cons r rules ih =>
    intro report s h
    have ih := ih fun r' hr => hI r' (List.mem_cons_of_mem _ hr)
    have hr := hI r List.mem_cons_self s h
    rw [List.map_cons]
    by_cases ha : (Check.catalog probe r).applies d.language
    · rw [runFrom_cons_of_applies d ha]
      split
      · exact ih _ _ hr
      · exact hr
    · rw [runFrom_cons_of_not_applies d ha]
      exact ih report s h

theorem not_mem_standard_memoryLeak : .memoryLeak ∉ RuleId.standard := by decide

/-- A run does to the disk what the source of declarations and the search for leaks do. -/
theorem run_catalog_frame {R : Disk → Disk → Prop} {rules : List RuleId}
    (hrefl : ∀ disk, R disk disk) (htrans : ∀ {x y z}, R x y → R y z → R x z)
    (hsource : ∀ disk, R disk (s.source d disk).2)
    (hprobe : .memoryLeak ∈ rules → ∀ path language disk, R disk (probe path language disk).2) :
    R s.disk (Battery.run (rules.map (Check.catalog probe)) d s).2.disk := by
  have hstep : ∀ r ∈ rules, ∀ s', s'.source = s.source ∧ R s.disk s'.disk →
      (Rule.evaluate probe r d s').2.source = s.source ∧
        R s.disk (Rule.evaluate probe r d s').2.disk := by
    rintro r hr s' ⟨hsame, hdisk⟩
    obtain ⟨hsource', hrule⟩ := Rule.evaluate_frame (d := d) (s := s') hrefl (hsame ▸ hsource)
      fun he => hprobe (he ▸ hr)
    exact ⟨hsource'.trans hsame, htrans hdisk hrule⟩
  exact (run_catalog_preserves probe hstep ⟨rfl, hrefl _⟩).2

theorem mem_recorded_rule {r : RuleId} {f : Diagnostic}
    (h : f ∈ recorded d (Rule.evaluate probe r d s).1) : f.rule = r := by
  cases hr : (Rule.evaluate probe r d s).1 with
  | error e => rw [hr] at h; cases h
  | ok found =>
    rw [hr] at h
    exact (Rule.evaluate_label hr).rule_eq (mem_recorded.1 h).1

theorem filter_recorded (p : RuleId → Bool) (r : RuleId) (d : Document) (s : Session) :
    (recorded d (Rule.evaluate probe r d s).1).filter (fun f => p f.rule) =
      if p r then recorded d (Rule.evaluate probe r d s).1 else [] := by
  split_ifs with hr
  · exact List.filter_eq_self.2 fun f hf => by rwa [mem_recorded_rule probe hf]
  · exact List.filter_eq_nil_iff.2 fun f hf => by rwa [mem_recorded_rule probe hf]

/-! ### Runs and rules alone -/

section Alone

variable {probe} {rules : List RuleId}

/-- Up to messages of failures, the answers of rules in one session are those that each of them
gives alone. -/
theorem answers_catalog (hsteady : s₀.Steady probe d rules) (h₀ : s₀.known = none) :
    (answers d (rules.map (Check.catalog probe)) s₀).map (fun a => (a.1, Fault.outline a.2)) =
      (rules.filter (·.appliesTo d.language)).map fun r =>
        (r, Fault.outline (Rule.evaluate probe r d s₀).1) := by
  -- the induction is on the rules that are left, for any session that rules may have left behind
  suffices h : ∀ left : List RuleId, (∀ r ∈ left, r ∈ rules) → ∀ s, Follows probe d s₀ s →
      (answers d (left.map (Check.catalog probe)) s).map (fun a => (a.1, Fault.outline a.2)) =
        (left.filter (·.appliesTo d.language)).map fun r =>
          (r, Fault.outline (Rule.evaluate probe r d s₀).1) from
    h rules (fun _ => id) s₀ (.refl h₀)
  intro left
  induction left with
  | nil =>
    intro _ s _
    rfl
  | cons r left ih =>
    intro hleft s h
    have ih := ih fun r hr => hleft r (List.mem_cons_of_mem _ hr)
    rw [answers_catalog_cons, List.filter_cons]
    split_ifs
    · rw [List.map_cons, List.map_cons, ih _ (Rule.evaluate_follows r h),
        Rule.outline_evaluate hsteady (hleft r List.mem_cons_self) h₀ h]
    · exact ih s h

theorem recorded_eq_outline (d : Document) (f : Findings) :
    recorded d f = ((Fault.outline f).join.map
      (List.filter fun f => decide (1 ≤ f.line ∧ f.line ≤ d.size))).getD [] := by
  rcases f with (_ | _) | _ <;> rfl

theorem recorded_congr (d : Document) {f f' : Findings} (h : Fault.outline f = Fault.outline f') :
    recorded d f = recorded d f' := by
  rw [recorded_eq_outline, recorded_eq_outline, h]

theorem rule_failure? (a : RuleId × Findings) :
    (failure? a).map (·.rule) = if Fault.outline a.2 = some none then some a.1 else none := by
  obtain ⟨r, (e | _) | found⟩ := a <;> simp [failure?, Fault.outline]

variable (hsteady : s₀.Steady probe d rules) (h₀ : s₀.known = none)
include hsteady h₀

theorem mem_answers_catalog_iff {r : RuleId} {x : Option (Option (List Diagnostic))} :
    (∃ f, (r, f) ∈ answers d (rules.map (Check.catalog probe)) s₀ ∧ Fault.outline f = x) ↔
      r ∈ rules.filter (·.appliesTo d.language) ∧
        Fault.outline (Rule.evaluate probe r d s₀).1 = x := by
  have h : (r, x) ∈ (answers d (rules.map (Check.catalog probe)) s₀).map
        (fun a => (a.1, Fault.outline a.2)) ↔
      (r, x) ∈ (rules.filter (·.appliesTo d.language)).map fun r =>
        (r, Fault.outline (Rule.evaluate probe r d s₀).1) := by
    rw [answers_catalog hsteady h₀]
  simp only [List.mem_map, Prod.mk.injEq, Prod.exists] at h
  constructor
  · rintro ⟨f, hf, hx⟩
    obtain ⟨_, hr, rfl, he⟩ := h.1 ⟨r, f, hf, rfl, hx⟩
    exact ⟨hr, he⟩
  · rintro ⟨hr, hx⟩
    obtain ⟨_, f, hf, rfl, he⟩ := h.2 ⟨r, hr, rfl, hx⟩
    exact ⟨f, hf, he⟩

/-- A run overflows if one of its rules does so alone. -/
theorem run_catalog_eq_none_iff :
    (Battery.run (rules.map (Check.catalog probe)) d s₀).1 = none ↔
      ∃ r ∈ rules, r.appliesTo d.language ∧
        (Rule.evaluate probe r d s₀).1 = .error .overflow := by
  rw [run_eq_none_iff]
  have h (r : RuleId) := mem_answers_catalog_iff (r := r) (x := none) hsteady h₀
  simp only [Fault.outline_eq_none_iff, List.mem_filter, exists_eq_right, and_assoc] at h
  simp only [h]

section Report

variable {report : Report}
  (h : (Battery.run (rules.map (Check.catalog probe)) d s₀).1 = some report)
include h

/-- The findings of a run are those that its rules record alone. -/
theorem run_catalog_diagnostics :
    report.diagnostics = (rules.filter (·.appliesTo d.language)).flatMap fun r =>
      recorded d (Rule.evaluate probe r d s₀).1 := by
  have hanswers := congrArg
    (List.flatMap fun a => (a.2.join.map
      (List.filter fun f => decide (1 ≤ f.line ∧ f.line ≤ d.size))).getD [])
    (answers_catalog hsteady h₀)
  rw [List.flatMap_map, List.flatMap_map] at hanswers
  simp only [run_diagnostics h, recorded_eq_outline]
  exact hanswers

/-- The rules that fail in a run are those that fail alone. -/
theorem run_catalog_failures :
    report.failures.map (·.rule) =
      (rules.filter (·.appliesTo d.language)).filter fun r =>
        (Rule.evaluate probe r d s₀).1.toOption.isNone := by
  have hanswers := congrArg (List.filterMap fun a => if a.2 = some none then some a.1 else none)
    (answers_catalog hsteady h₀)
  rw [List.filterMap_map, List.filterMap_map] at hanswers
  rw [run_failures h, List.map_filterMap]
  simp only [rule_failure?]
  rw [← List.filterMap_eq_filter]
  refine hanswers.trans (List.filterMap_congr fun r hr => ?_)
  -- a rule without findings fails, since there is a report
  have hne : (Rule.evaluate probe r d s₀).1 ≠ .error .overflow := fun he => by
    obtain ⟨hr, ha⟩ := List.mem_filter.1 hr
    rw [(run_catalog_eq_none_iff hsteady h₀).2 ⟨r, hr, ha, he⟩] at h
    cases h
  rcases hr : (Rule.evaluate probe r d s₀).1 with (_ | _) | _
  · simp [hr, Fault.outline, Option.guard, Except.toOption]
  · exact absurd hr hne
  · simp [hr, Fault.outline, Option.guard, Except.toOption]

/-- The findings of one rule in a run are those that it records alone, once for each time that the
rule is listed. -/
theorem run_catalog_ofRule (r : RuleId) :
    report.diagnostics.filter (·.rule = r) =
      (List.replicate ((rules.filter (·.appliesTo d.language)).count r)
        (recorded d (Rule.evaluate probe r d s₀).1)).flatten := by
  rw [run_catalog_diagnostics hsteady h₀ h, List.filter_flatMap]
  induction rules.filter (·.appliesTo d.language) with
  | nil => rfl
  | cons r' rules ih =>
    rw [List.flatMap_cons, ih, filter_recorded (p := (· = r)), List.count_cons]
    by_cases hr : r' = r
    · simp [hr, List.replicate_succ]
    · simp [hr]

theorem run_catalog_count?_isSome (r : RuleId) :
    (report.count? r).isSome ↔
      r ∈ rules.filter (·.appliesTo d.language) ∧
        ∃ found, (Rule.evaluate probe r d s₀).1 = .ok found := by
  rw [run_count?_isSome h]
  have hm (found : List Diagnostic) :=
    mem_answers_catalog_iff (r := r) (x := some (some found)) hsteady h₀
  simp only [Fault.outline_eq_some_some_iff, exists_eq_right] at hm
  simp only [hm, exists_and_left]

end Report

theorem run_catalog_perm {rules' : List RuleId} (hp : rules.Perm rules') :
    Option.Rel Report.Reordered (Battery.run (rules.map (Check.catalog probe)) d s₀).1
      (Battery.run (rules'.map (Check.catalog probe)) d s₀).1 := by
  have hsteady' : s₀.Steady probe d rules' :=
    ⟨hsteady.declarations, fun hl => hsteady.leaks (hp.mem_iff.2 hl)⟩
  have hf := hp.filter (·.appliesTo d.language)
  have hnone := run_catalog_eq_none_iff hsteady h₀
  have hnone' := run_catalog_eq_none_iff hsteady' h₀
  simp only [← hp.mem_iff, ← hnone] at hnone'
  cases h : (Battery.run (rules.map (Check.catalog probe)) d s₀).1 with
  | none =>
    rw [hnone'.2 h]
    exact .none
  | some report =>
    obtain ⟨report', h'⟩ := Option.ne_none_iff_exists'.1 fun he => by
      rw [hnone'.1 he] at h
      cases h
    have hd : report.diagnostics.Perm report'.diagnostics := by
      rw [run_catalog_diagnostics hsteady h₀ h, run_catalog_diagnostics hsteady' h₀ h']
      exact hf.flatMap_right _
    have hc := run_consistent (catalog_ownLabel probe rules d) h
    have hc' := run_consistent (catalog_ownLabel probe rules' d) h'
    rw [h']
    refine .some ⟨hc.tallied.counts_eq hc'.tallied (fun r => ?_) hd, ?_, hd, fun r => ?_, ?_⟩
    · rw [run_catalog_count?_isSome hsteady h₀ h, run_catalog_count?_isSome hsteady' h₀ h',
        hf.mem_iff]
    · rw [Bool.eq_iff_iff, hc.hasIssues_iff, hc'.hasIssues_iff, ← List.length_pos_iff,
        ← List.length_pos_iff, hd.length_eq]
    · rw [run_catalog_ofRule hsteady h₀ h, run_catalog_ofRule hsteady' h₀ h', hf.count_eq]
    · rw [run_catalog_failures hsteady h₀ h, run_catalog_failures hsteady' h₀ h']
      exact hf.filter _

end Alone

/-- **Rules are isolated, and their order does not matter.**  Let rules of the catalog run in a
fresh session, and let the source of declarations and the search for leaks give the same results
each time they are asked.  There is a report unless a rule that applies overflows alone.  In the
report, every rule that applies records what it finds on lines of the document when it is evaluated
alone, as often as it is listed, and fails if it fails alone.  So the reports of two orders of the
same rules differ in the order of findings of different rules, in the order of failures and in their
messages, and in nothing else. -/
theorem run_catalog_isolated (d : Document) (language : Language) (thresholds : Thresholds)
    (source : DeclarationSource) (keywords : List String) (disk : Disk) (rules : List RuleId)
    (hsteady : (Session.fresh language thresholds source keywords disk).Steady probe d rules) :
    let s := Session.fresh language thresholds source keywords disk
    let report? := fun rules : List RuleId =>
      (Battery.run (rules.map (Check.catalog probe)) d s).1
    (report? rules = none ↔
        ∃ r ∈ rules, r.appliesTo d.language ∧
          (Rule.evaluate probe r d s).1 = .error .overflow) ∧
      (∀ report, report? rules = some report →
        report.diagnostics =
            ((rules.filter (·.appliesTo d.language)).flatMap fun r =>
              recorded d (Rule.evaluate probe r d s).1) ∧
          (∀ r, r.appliesTo d.language →
            report.diagnostics.filter (·.rule = r) =
              (List.replicate (rules.count r)
                (recorded d (Rule.evaluate probe r d s).1)).flatten) ∧
          report.failures.map (·.rule) =
            ((rules.filter (·.appliesTo d.language)).filter fun r =>
              (Rule.evaluate probe r d s).1.toOption.isNone)) ∧
      ∀ rules', rules.Perm rules' →
        Option.Rel Report.Reordered (report? rules) (report? rules') := by
  intro s report?
  refine ⟨run_catalog_eq_none_iff hsteady rfl, fun report h => ?_, fun _ hp =>
    run_catalog_perm hsteady rfl hp⟩
  refine ⟨run_catalog_diagnostics hsteady rfl h, fun r hr => ?_,
    run_catalog_failures hsteady rfl h⟩
  rw [← List.count_filter (p := fun r => r.appliesTo d.language) hr]
  exact run_catalog_ofRule hsteady rfl h r

/-- A source of declarations that fails and leaves a file behind each time: two of three rules fail
in either order, and the third one finds a line that is not UTF-8, the second of the document. -/
theorem run_catalog_isolated_failing_source :
    let d := Document.ofBytes ⟨"a.c"⟩ [0x41, 0x0A, 0xFF, 0x0A]
    let source : DeclarationSource := fun _ disk =>
      (.error (.failure (.tool "cpp" "missing")), disk.put ["a.i"] (.file []))
    let probe : LeakProbe := fun _ _ disk => (.error (.tool "cc" "missing"), disk)
    let s := Session.fresh .c {} source [] .empty
    let report? := fun rules : List RuleId =>
      (Battery.run (rules.map (Check.catalog probe)) d s).1
    s.Steady probe d [.functionCase, .encoding, .typeCase] ∧
      RuleId.encoding.appliesTo d.language ∧
      ∃ report report',
        report? [.functionCase, .encoding, .typeCase] = some report ∧
          report? [.typeCase, .encoding, .functionCase] = some report' ∧
          report.diagnostics = [.of .encoding 2
            "File is not UTF-8 encoded - Please save the file in UTF-8 format."] ∧
          report.Reordered report' := by
  intro d source probe s report?
  have hsteady : s.Steady probe d [.functionCase, .encoding, .typeCase] :=
    ⟨fun _ _ => rfl, fun _ _ _ => rfl⟩
  have ha : RuleId.encoding.appliesTo d.language := rfl
  obtain ⟨-, hreport, hperm⟩ :=
    run_catalog_isolated probe d .c {} source [] .empty [.functionCase, .encoding, .typeCase]
      hsteady
  have hperm : Option.Rel Report.Reordered (report? [.functionCase, .encoding, .typeCase])
      (report? [.typeCase, .encoding, .functionCase]) := hperm _ (List.reverse_perm _).symm
  obtain ⟨report, hrun⟩ : ∃ report, report? [.functionCase, .encoding, .typeCase] = some report :=
    Option.isSome_iff_exists.1 (by decide +kernel)
  obtain ⟨report', hrun'⟩ : ∃ report, report? [.typeCase, .encoding, .functionCase] = some report :=
    Option.isSome_iff_exists.1 (by decide +kernel)
  refine ⟨hsteady, ha, report, report', hrun, hrun', ?_, ?_⟩
  · rw [(hreport report hrun).1]
    decide +kernel
  · rw [hrun, hrun'] at hperm
    cases hperm with
    | some h => exact h

/-! ### Two documents -/

/-- If declarations come from the lines of a document, a rule other than the search for leaks finds
in a run what it finds alone. -/
theorem recorded_of_follows (hsource : s₀.source = .ofLines) (h₀ : s₀.known = none) {r : RuleId}
    (hr : r ≠ .memoryLeak) (hs : Follows probe d s₀ s) :
    recorded d (Rule.evaluate probe r d s).1 = recorded d (Rule.evaluate probe r d s₀).1 := by
  have hsteady : s₀.Steady probe d [r] :=
    Session.steady_ofLines hsource fun h => hr (List.mem_singleton.1 h).symm
  exact recorded_congr d (Rule.outline_evaluate hsteady List.mem_cons_self h₀ hs)

/-- Rules overflow on both of two documents or on neither, if the rule on indentation does. -/
theorem evaluate_overflow_iff {d' : Document} (hsource : s₀.source = .ofLines)
    (hoverflow : (Rule.evaluateIndentation d' s₀).1 = .error .overflow ↔
      (Rule.evaluateIndentation d s₀).1 = .error .overflow) (r : RuleId) {s' : Session}
    (hs' : Follows probe d' s₀ s') (hs : Follows probe d s₀ s) :
    (Rule.evaluate probe r d' s').1 = .error .overflow ↔
      (Rule.evaluate probe r d s).1 = .error .overflow := by
  by_cases hr : r = .indentationSpacing
  · subst hr
    rw [Rule.evaluate, Rule.evaluate, (Rule.evaluateIndentation_keeps hs'.toKeeps).1,
      (Rule.evaluateIndentation_keeps hs.toKeeps).1, hoverflow]
  · exact iff_of_false (Rule.evaluate_ne_overflow hsource hr hs')
      (Rule.evaluate_ne_overflow hsource hr hs)

/-- Findings of selected rules correspond to each other in two runs if the rules find, alone, what
corresponds to each other. -/
theorem filter_recorded_of_follows {d' : Document} (hsource : s₀.source = .ofLines)
    (h₀ : s₀.known = none) {selected : List RuleId} (hleak : .memoryLeak ∉ selected)
    {change : Diagnostic → Diagnostic}
    (hsame : ∀ r ∈ selected, recorded d' (Rule.evaluate probe r d' s₀).1 =
      (recorded d (Rule.evaluate probe r d s₀).1).map change) (r : RuleId) {s' : Session}
    (hs' : Follows probe d' s₀ s') (hs : Follows probe d s₀ s) :
    (recorded d' (Rule.evaluate probe r d' s').1).filter (·.rule ∈ selected) =
      ((recorded d (Rule.evaluate probe r d s).1).filter (·.rule ∈ selected)).map change := by
  rw [filter_recorded (p := (· ∈ selected)), filter_recorded (p := (· ∈ selected))]
  by_cases hr : r ∈ selected
  · have hne : r ≠ .memoryLeak := ne_of_mem_of_not_mem hr hleak
    rw [if_pos (by simpa using hr), if_pos (by simpa using hr),
      recorded_of_follows probe hsource h₀ hne hs', recorded_of_follows probe hsource h₀ hne hs,
      hsame r hr]
  · rw [if_neg (by simpa using hr), if_neg (by simpa using hr), List.map_nil]

/-- The findings of selected rules correspond to each other in two reports. -/
def Corresponds (selected : List RuleId) (change : Diagnostic → Diagnostic)
    (report' report : Report) : Prop :=
  report'.diagnostics.filter (·.rule ∈ selected) =
    (report.diagnostics.filter (·.rule ∈ selected)).map change

/-- Reports that correspond to each other still do after answers that do, and there is none after an
overflow. -/
theorem Corresponds.note {d' : Document} {selected : List RuleId} {change : Diagnostic → Diagnostic}
    {report' report : Report} (hR : Corresponds selected change report' report) {f' f : Findings}
    (hoverflow : f' = .error .overflow ↔ f = .error .overflow)
    (hfound : (recorded d' f').filter (·.rule ∈ selected) =
      ((recorded d f).filter (·.rule ∈ selected)).map change) (r : RuleId) :
    Option.Rel (Corresponds selected change) (Battery.note d' report' (r, f'))
      (Battery.note d report (r, f)) := by
  cases hn : Battery.note d report (r, f) with
  | none =>
    rw [note_eq_none_iff.2 (hoverflow.2 (note_eq_none_iff.1 hn))]
    exact .none
  | some next =>
    obtain ⟨next', hn'⟩ : ∃ next', Battery.note d' report' (r, f') = some next' := by
      refine Option.ne_none_iff_exists'.1 fun hnone => ?_
      rw [note_eq_none_iff.2 (hoverflow.1 (note_eq_none_iff.1 hnone))] at hn
      cases hn
    rw [hn']
    refine .some ?_
    rw [Corresponds, diagnostics_of_note hn, diagnostics_of_note hn', List.filter_append,
      List.filter_append, List.map_append, hfound, show _ = _ from hR]

/-- Reports of rules on two documents side by side.  Let rules answer on one of them as on the other
but for a change to each finding, in the first session; let declarations come from the lines of the
documents and establish the same module, and let the rule on indentation overflow on both documents
or on neither.  Then the findings of these rules in runs of any rules correspond to each other, and
so do the modules that are established. -/
theorem run_catalog_filter_map {d' : Document} (hl : d'.language = d.language)
    (h₀ : s₀.known = none) (hsource : s₀.source = .ofLines)
    (hmodule : Rule.moduleOf d'.declarations = Rule.moduleOf d.declarations)
    (hoverflow : (Rule.evaluateIndentation d' s₀).1 = .error .overflow ↔
      (Rule.evaluateIndentation d s₀).1 = .error .overflow)
    {selected : List RuleId} (hleak : .memoryLeak ∉ selected) (change : Diagnostic → Diagnostic)
    (hsame : ∀ r ∈ selected, recorded d' (Rule.evaluate probe r d' s₀).1 =
      (recorded d (Rule.evaluate probe r d s₀).1).map change) (rules : List RuleId) :
    let b : Battery := rules.map (Check.catalog probe)
    (b.run d' s₀).1.map (fun report => report.diagnostics.filter (·.rule ∈ selected)) =
        (b.run d s₀).1.map
          (fun report => (report.diagnostics.filter (·.rule ∈ selected)).map change) ∧
      (b.run d' s₀).2.established = (b.run d s₀).2.established := by
  -- the induction is on the rules that are left, for any sessions that rules may have left behind
  -- and that have the same module, and for any reports so far that correspond to each other
  suffices hrun : ∀ s' s report' report, Follows probe d' s₀ s' → Follows probe d s₀ s →
      s'.established = s.established → Corresponds selected change report' report →
      Option.Rel (Corresponds selected change)
          (runFrom d' report' s' (rules.map (Check.catalog probe))).1
          (runFrom d report s (rules.map (Check.catalog probe))).1 ∧
        (runFrom d' report' s' (rules.map (Check.catalog probe))).2.established =
          (runFrom d report s (rules.map (Check.catalog probe))).2.established by
    obtain ⟨hreport, hestablished⟩ :=
      hrun s₀ s₀ (.start d'.path) (.start d.path) (.refl h₀) (.refl h₀) rfl rfl
    exact ⟨map_eq_of_rel hreport fun _ _ h => h, hestablished⟩
  induction rules with
  | nil =>
    intro s' s report' report _ _ he hR
    exact ⟨.some hR, he⟩
  | cons r rules ih =>
    intro s' s report' report hs' hs he hR
    rw [List.map_cons]
    by_cases ha : (Check.catalog probe r).applies d.language
    · rw [runFrom_cons_of_applies d ha, runFrom_cons_of_applies d' (by rwa [hl])]
      have he : (Rule.evaluate probe r d' s').2.established =
          (Rule.evaluate probe r d s).2.established := by
        rw [Rule.evaluate_established hsource hs', Rule.evaluate_established hsource hs, hmodule,
          he]
      have hnote := hR.note (evaluate_overflow_iff probe hsource hoverflow r hs' hs)
        (filter_recorded_of_follows probe hsource h₀ hleak hsame r hs' hs) r
      simp only [Check.catalog]
      generalize note d' report' _ = next', note d report _ = next at hnote ⊢
      cases hnote with
      | none => exact ⟨.none, he⟩
      | some hR =>
        exact ih _ _ _ _ (Rule.evaluate_follows r hs') (Rule.evaluate_follows r hs) he hR
    · rw [runFrom_cons_of_not_applies d ha, runFrom_cons_of_not_applies d' (by rwa [hl])]
      exact ih s' s report' report hs' hs he hR

end Battery

end StyleAudit
