import Mathlib.Algebra.Ring.Nat
import Mathlib.Data.List.Sort
import StyleAudit.Report.Basic

/-!
# Tallies

A report keeps a count for each rule and a flag beside its findings.  Both are updated whenever
findings are recorded and never looked at again, so that they could disagree with the findings.
They do not: `Report.Tallied` says how they belong together, recording findings under their own rule
and recording failures keep it (`Report.Tallied.record`, `Report.Tallied.recordFailure`), and so
every report that is made in this way has it (`Report.Reachable.tallied`), whatever the order of the
calls and however often a rule is recorded.
-/

namespace StyleAudit

/-! ### Positions in the catalog -/

theorem RuleId.mem_all (r : RuleId) : r ∈ RuleId.all := by
  cases r <;> decide

theorem RuleId.rank_injective : Function.Injective RuleId.rank :=
  fun r _ h => (List.idxOf_inj (mem_all r)).1 h

/-- Rules in catalog order. -/
def RuleId.InOrder (rules : List RuleId) : Prop := rules.Pairwise fun r r' => r.rank < r'.rank

theorem RuleId.all_inOrder : InOrder all := by
  unfold InOrder
  decide

/-- Rules in catalog order are determined by which rules they are. -/
theorem RuleId.InOrder.eq_of_mem_iff {rules rules' : List RuleId} (h : InOrder rules)
    (h' : InOrder rules') (hm : ∀ r, r ∈ rules ↔ r ∈ rules') : rules = rules' := by
  have : Std.Antisymm fun r r' : RuleId => r.rank < r'.rank :=
    ⟨fun _ _ hab hba => absurd (Nat.lt_trans hab hba) (Nat.lt_irrefl _)⟩
  have : Std.Irrefl fun r r' : RuleId => r.rank < r'.rank := ⟨fun _ => Nat.lt_irrefl _⟩
  exact List.Pairwise.eq_of_mem_iff h h' hm

theorem RuleId.InOrder.nodup {rules : List RuleId} (h : InOrder rules) : rules.Nodup := by
  refine List.Pairwise.imp (fun hlt => ?_) h
  rintro rfl
  exact Nat.lt_irrefl _ hlt

namespace Report

/-! ### Counts -/

/-- Counts in catalog order, each rule at most once. -/
def Ordered (counts : List (RuleId × Nat)) : Prop :=
  counts.Pairwise fun a b => a.1.rank < b.1.rank

theorem Ordered.inOrder {counts : List (RuleId × Nat)} (h : Ordered counts) :
    RuleId.InOrder (counts.map Prod.fst) :=
  List.pairwise_map.2 h

theorem mem_map_fst_addCount {r r' : RuleId} {n : Nat} {counts : List (RuleId × Nat)} :
    r' ∈ (addCount r n counts).map Prod.fst ↔ r' = r ∨ r' ∈ counts.map Prod.fst := by
  induction counts with
  | nil => simp [addCount]
  | cons p rest ih =>
    rw [addCount]
    split_ifs with h₁ h₂
    · simp [h₁]
    · simp
    · simp only [List.map_cons, List.mem_cons, ih]
      tauto

theorem ordered_addCount (r : RuleId) (n : Nat) {counts : List (RuleId × Nat)}
    (h : Ordered counts) : Ordered (addCount r n counts) := by
  induction counts with
  | nil => simp [addCount, Ordered]
  | cons p rest ih =>
    obtain ⟨r₁, n₁⟩ := p
    obtain ⟨hp, hrest⟩ := List.pairwise_cons.1 h
    rw [addCount]
    split_ifs with h₁ h₂
    · exact List.pairwise_cons.2 ⟨hp, hrest⟩
    · refine List.pairwise_cons.2 ⟨fun q hq => ?_, h⟩
      rcases List.mem_cons.1 hq with rfl | hq
      · exact h₂
      · exact Nat.lt_trans h₂ (hp q hq)
    · refine List.pairwise_cons.2 ⟨fun q hq => ?_, ih hrest⟩
      rcases mem_map_fst_addCount.1 (List.mem_map_of_mem hq) with e | hq
      · -- `r` comes behind `r₁`: it is neither equal to it nor before it
        have hne : r₁.rank ≠ r.rank := fun e => h₁ (RuleId.rank_injective e)
        rw [e]
        exact Nat.lt_of_le_of_ne (Nat.le_of_not_lt h₂) hne
      · obtain ⟨q', hq', e⟩ := List.mem_map.1 hq
        rw [← e]
        exact hp q' hq'

theorem lookup_cons_ite (r r' : RuleId) (n : Nat) (counts : List (RuleId × Nat)) :
    ((r, n) :: counts).lookup r' = if r' = r then some n else counts.lookup r' := by
  rw [List.lookup_cons]
  by_cases h : r' = r
  · simp [h]
  · simp [h, beq_eq_false_iff_ne.2 h]

theorem Ordered.lookup_eq_none {r : RuleId} {counts : List (RuleId × Nat)}
    (h : ∀ p ∈ counts, r.rank < p.1.rank) : counts.lookup r = none := by
  rw [List.lookup_eq_none_iff]
  intro p hp
  simp only [bne_iff_ne, ne_eq]
  rintro rfl
  exact Nat.lt_irrefl _ (h p hp)

theorem lookup_addCount (r : RuleId) (n : Nat) {counts : List (RuleId × Nat)}
    (h : Ordered counts) (r' : RuleId) :
    (addCount r n counts).lookup r' =
      if r' = r then some ((counts.lookup r).getD 0 + n) else counts.lookup r' := by
  induction counts with
  | nil => simp [addCount, lookup_cons_ite]
  | cons p rest ih =>
    obtain ⟨r₁, n₁⟩ := p
    obtain ⟨hp, hrest⟩ := List.pairwise_cons.1 h
    by_cases h₁ : r₁ = r
    · subst h₁
      rw [addCount, if_pos rfl]
      simp only [lookup_cons_ite, if_true, Option.getD_some]
      split_ifs <;> rfl
    by_cases h₂ : r.rank < r₁.rank
    · have hr : ((r₁, n₁) :: rest).lookup r = none :=
        Ordered.lookup_eq_none fun q hq => by
          rcases List.mem_cons.1 hq with rfl | hq
          · exact h₂
          · exact Nat.lt_trans h₂ (hp q hq)
      rw [addCount, if_neg h₁, if_pos h₂, lookup_cons_ite r r', hr, Option.getD_none,
        Nat.zero_add]
    · rw [addCount, if_neg h₁, if_neg h₂]
      simp only [lookup_cons_ite, ih hrest, if_neg (Ne.symm h₁)]
      by_cases h₃ : r' = r₁
      · simp [h₃, h₁]
      · simp [h₃]

theorem sum_addCount (r : RuleId) (n : Nat) (counts : List (RuleId × Nat)) :
    ((addCount r n counts).map Prod.snd).sum = (counts.map Prod.snd).sum + n := by
  induction counts with
  | nil => simp [addCount]
  | cons p rest ih =>
    rw [addCount]
    split_ifs with h₁ h₂
    · simp only [List.map_cons, List.sum_cons]; omega
    · simp only [List.map_cons, List.sum_cons]; omega
    · simp only [List.map_cons, List.sum_cons, ih]; omega

theorem Ordered.mem_iff {counts : List (RuleId × Nat)} (h : Ordered counts) {r : RuleId}
    {n : Nat} : (r, n) ∈ counts ↔ counts.lookup r = some n := by
  induction counts with
  | nil => simp
  | cons p rest ih =>
    obtain ⟨r₁, n₁⟩ := p
    obtain ⟨hp, hrest⟩ := List.pairwise_cons.1 h
    rw [List.mem_cons, ih hrest, lookup_cons_ite]
    by_cases h₁ : r = r₁
    · subst h₁
      simp [Ordered.lookup_eq_none hp, eq_comm]
    · simp [h₁]

/-- Counts in catalog order are determined by the count of each rule. -/
theorem Ordered.eq_of_lookup_eq {counts counts' : List (RuleId × Nat)} (h : Ordered counts)
    (h' : Ordered counts') (he : ∀ r, counts.lookup r = counts'.lookup r) :
    counts = counts' := by
  have : Std.Antisymm fun a b : RuleId × Nat => a.1.rank < b.1.rank :=
    ⟨fun _ _ hab hba => absurd (Nat.lt_trans hab hba) (Nat.lt_irrefl _)⟩
  have : Std.Irrefl fun a b : RuleId × Nat => a.1.rank < b.1.rank :=
    ⟨fun _ => Nat.lt_irrefl _⟩
  refine List.Pairwise.eq_of_mem_iff h h' fun ⟨r, n⟩ => ?_
  rw [h.mem_iff, h'.mem_iff, he r]

theorem count?_isSome_iff {report : Report} {r : RuleId} :
    (report.count? r).isSome ↔ r ∈ report.counts.map Prod.fst := by
  rw [count?, List.lookup_isSome_iff, List.mem_map]
  simp only [beq_iff_eq, eq_comm (a := r)]

/-! ### Counts and findings -/

/-- The counts and the flag of a report agree with its findings. -/
structure Tallied (report : Report) : Prop where
  /-- Counts are in catalog order, one for each rule. -/
  ordered : Ordered report.counts
  /-- The count of a rule is the number of its findings. -/
  count_eq : ∀ r n, report.count? r = some n → n = report.diagnostics.countP (·.rule = r)
  /-- Every finding is of a rule with a count. -/
  counted : ∀ f ∈ report.diagnostics, (report.count? f.rule).isSome
  /-- The counts add up to the number of findings. -/
  sum_eq : (report.counts.map Prod.snd).sum = report.diagnostics.length
  /-- The flag tells whether there are findings. -/
  hasIssues_iff : report.hasIssues = true ↔ report.diagnostics ≠ []

variable {report : Report}

theorem start_tallied (path : Path) : (start path).Tallied where
  ordered := List.Pairwise.nil
  count_eq := by simp [start, count?]
  counted := by simp [start]
  sum_eq := by simp [start]
  hasIssues_iff := by simp [start]

theorem Tallied.count?_record (h : report.Tallied) (r r' : RuleId) (found : List Diagnostic) :
    (report.record r found).count? r' =
      if r' = r then some ((report.count? r).getD 0 + found.length) else report.count? r' :=
  lookup_addCount r found.length h.ordered r'

/-- A rule without a count has no findings. -/
theorem Tallied.getD_count? (h : report.Tallied) (r : RuleId) :
    (report.count? r).getD 0 = report.diagnostics.countP (·.rule = r) := by
  cases hr : report.count? r with
  | some n => exact h.count_eq r n hr
  | none =>
    refine (List.countP_eq_zero.2 fun f hf => ?_).symm
    simp only [decide_eq_true_eq]
    rintro rfl
    simpa [hr] using h.counted f hf

theorem Tallied.record (h : report.Tallied) {r : RuleId} {found : List Diagnostic}
    (hrule : ∀ f ∈ found, f.rule = r) : (report.record r found).Tallied where
  ordered := ordered_addCount r found.length h.ordered
  count_eq r' n hn := by
    rw [h.count?_record] at hn
    change n = (report.diagnostics ++ found).countP (·.rule = r')
    rw [List.countP_append]
    split_ifs at hn with hr
    · subst hr
      have hall : found.countP (·.rule = r') = found.length :=
        List.countP_eq_length.2 fun f hf => by simpa using hrule f hf
      rw [hall, ← h.getD_count? r']
      exact (Option.some.inj hn).symm
    · have hnone : found.countP (·.rule = r') = 0 :=
        List.countP_eq_zero.2 fun f hf => by
          rw [hrule f hf]; simpa using Ne.symm hr
      rw [hnone, Nat.add_zero]
      exact h.count_eq r' n hn
  counted f hf := by
    rw [h.count?_record]
    split_ifs with hr
    · rfl
    · rcases List.mem_append.1 hf with hf | hf
      · exact h.counted f hf
      · exact absurd (hrule f hf) hr
  sum_eq := by
    change ((addCount r found.length report.counts).map Prod.snd).sum =
      (report.diagnostics ++ found).length
    rw [sum_addCount, h.sum_eq, List.length_append]
  hasIssues_iff := by
    have := h.hasIssues_iff
    simp only [Report.record, Bool.or_eq_true, this]
    simp [-not_and, not_and_or]

theorem Tallied.recordFailure (h : report.Tallied) (r : RuleId) (e : Failure) :
    (report.recordFailure r e).Tallied :=
  ⟨h.ordered, h.count_eq, h.counted, h.sum_eq, h.hasIssues_iff⟩

/-- Reports with equally many findings of a rule have the same count for it, if both have one. -/
theorem Tallied.count?_eq {report' : Report} (h : report.Tallied) (h' : report'.Tallied)
    {r : RuleId} (hs : (report.count? r).isSome ↔ (report'.count? r).isSome)
    (hc : report.diagnostics.countP (·.rule = r) = report'.diagnostics.countP (·.rule = r)) :
    report.count? r = report'.count? r := by
  rw [← h.getD_count? r, ← h'.getD_count? r] at hc
  cases hr : report.count? r with
  | none =>
    cases hr' : report'.count? r with
    | none => rfl
    | some n => simp [hr, hr'] at hs
  | some m =>
    cases hr' : report'.count? r with
    | none => simp [hr, hr'] at hs
    | some n =>
      rw [hr, hr'] at hc
      exact congrArg some hc

/-- Reports on the same findings have the same counts if the same rules have one. -/
theorem Tallied.counts_eq {report' : Report} (h : report.Tallied) (h' : report'.Tallied)
    (hs : ∀ r, (report.count? r).isSome ↔ (report'.count? r).isSome)
    (hp : report.diagnostics.Perm report'.diagnostics) : report.counts = report'.counts :=
  h.ordered.eq_of_lookup_eq h'.ordered fun r => h.count?_eq h' (hs r) (hp.countP_eq _)

/-! ### Reports that are made step by step -/

/-- The reports that arise from recording findings under their own rule and failures, in any
order. -/
inductive Reachable : Report → Prop
  /-- The report before any rule. -/
  | start (path : Path) : Reachable (.start path)
  /-- Findings of a rule are recorded. -/
  | record {report : Report} {r : RuleId} {found : List Diagnostic} (h : Reachable report)
      (hrule : ∀ f ∈ found, f.rule = r) : Reachable (report.record r found)
  /-- The failure of a rule is recorded. -/
  | recordFailure {report : Report} (h : Reachable report) (r : RuleId) (e : Failure) :
      Reachable (report.recordFailure r e)

/-- **Every report that is made step by step is tallied.** -/
theorem Reachable.tallied (h : report.Reachable) : report.Tallied := by
  induction h with
  | start path => exact start_tallied path
  | record _ hrule ih => exact ih.record hrule
  | recordFailure _ r e ih => exact ih.recordFailure r e

end Report

end StyleAudit
