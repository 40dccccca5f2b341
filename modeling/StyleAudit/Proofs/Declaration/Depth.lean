import Mathlib.Data.List.Infix
import Mathlib.Order.Bounds.Basic
import StyleAudit.Proofs.Nesting.WellNested
import StyleAudit.Proofs.Rule.Order

/-!
# Depth without a count

A scan for declarations keeps a count of braces that stops at zero, so that a surplus of closing
braces is forgotten, and with it all that stands above.  Without the count, the depth before a line
is the greatest surplus of opening braces in a run of lines of code that ends there
(`Declaration.isGreatest_depthBehind`).  The empty run is one of them; on balanced lines the longest
run decides.

`Declaration.scan_reflected` says what a scan finds in these terms.  A declaration stands at the top
level iff no run that ends right above it opens more braces than it closes.
-/

namespace StyleAudit.Declaration

/-! ### Runs of code -/

/-- The lines that a scan reads. -/
def codeLines (ls : List (Nat × List Char)) : List (Nat × List Char) :=
  ls.filter fun l => isCode (Text.trim l.2)

/-- The number of opening braces in a run of lines. -/
def opens (run : List (Nat × List Char)) : Nat := (run.flatMap Prod.snd).count '\x7b'

/-- The number of closing braces in a run of lines. -/
def closes (run : List (Nat × List Char)) : Nat := (run.flatMap Prod.snd).count '\x7d'

/-- What runs that end where the lines end open more than they close. -/
def surpluses (ls : List (Nat × List Char)) : Set Int :=
  {n | ∃ run, run <:+ ls ∧ n = opens run - closes run}

/-- The count of braces behind lines. -/
def depthBehind (ls : List (Nat × List Char)) : Nat :=
  ls.foldl (fun depth l => lineDepth depth l.2) 0

/-- A line of code, with the lines of code above it. -/
structure Site where
  /-- The lines above, the nearest last. -/
  above : List (Nat × List Char)
  /-- The line. -/
  line : Nat × List Char

/-- The lines of code, each with those above it. -/
def sites (ls : List (Nat × List Char)) : List Site :=
  (codeLines ls).mapIdx fun i l => ⟨(codeLines ls).take i, l⟩

/-- What is declared at a site.  It stands at the top level if no run of code that ends right above
opens more braces than it closes. -/
def Site.declaration? (site : Site) : Option Declaration :=
  (classify (Text.trim site.line.2)).map fun (kind, name) =>
    ⟨kind, name, site.line.1, decide (∀ run ∈ site.above.tails, opens run ≤ closes run)⟩

theorem codeLines_concat (ls : List (Nat × List Char)) (l : Nat × List Char) :
    codeLines (ls ++ [l]) = codeLines ls ++ if isCode (Text.trim l.2) then [l] else [] := by
  rw [codeLines, List.filter_append, List.filter_cons, List.filter_nil]
  rfl

theorem opens_concat (run : List (Nat × List Char)) (l : Nat × List Char) :
    opens (run ++ [l]) = opens run + l.2.count '\x7b' := by
  simp [opens]

theorem closes_concat (run : List (Nat × List Char)) (l : Nat × List Char) :
    closes (run ++ [l]) = closes run + l.2.count '\x7d' := by
  simp [closes]

/-! ### Depth -/

theorem depthBehind_concat (ls : List (Nat × List Char)) (l : Nat × List Char) :
    depthBehind (ls ++ [l]) = lineDepth (depthBehind ls) l.2 := by
  simp [depthBehind]

theorem lineDepth_of_isCode {line : List Char} (h : isCode (Text.trim line) = true)
    (depth : Nat) : lineDepth depth line = depth + line.count '\x7b' - line.count '\x7d' := by
  rw [lineDepth, if_pos h, depthAfter, Text.count_trim (by decide), Text.count_trim (by decide)]

/-- One more line makes every run longer, and the empty run is there again. -/
theorem isGreatest_concat {ls : List (Nat × List Char)} {depth : Nat}
    (h : IsGreatest (surpluses ls) depth) (l : Nat × List Char) :
    IsGreatest (surpluses (ls ++ [l]))
      ((depth + l.2.count '\x7b' - l.2.count '\x7d' : Nat) : Int) := by
  obtain ⟨⟨run, hrun, hdepth⟩, hmax⟩ := h
  constructor
  · by_cases hle : l.2.count '\x7d' ≤ depth + l.2.count '\x7b'
    · refine ⟨run ++ [l], List.suffix_concat_iff.2 (.inr ⟨run, rfl, hrun⟩), ?_⟩
      rw [opens_concat, closes_concat]
      omega
    · -- a surplus of closing braces is forgotten
      refine ⟨[], List.nil_suffix, ?_⟩
      simp only [opens, closes, List.flatMap_nil, List.count_nil]
      omega
  · rintro n ⟨run', hrun', rfl⟩
    rcases List.suffix_concat_iff.1 hrun' with rfl | ⟨run', rfl, hsuffix⟩
    · simp only [opens, closes, List.flatMap_nil, List.count_nil]
      omega
    · have := hmax ⟨run', hsuffix, rfl⟩
      rw [opens_concat, closes_concat]
      omega

/-- **The depth is the greatest surplus** of a run of code that ends where the lines end. -/
theorem isGreatest_depthBehind (ls : List (Nat × List Char)) :
    IsGreatest (surpluses (codeLines ls)) (depthBehind ls) := by
  induction ls using List.reverseRecOn with
  | nil =>
    refine ⟨⟨[], List.nil_suffix, rfl⟩, ?_⟩
    rintro n ⟨run, hrun, rfl⟩
    rw [List.suffix_nil.1 hrun]
    exact Int.le_refl 0
  | append_singleton ls l ih =>
    rw [depthBehind_concat, codeLines_concat]
    by_cases hc : isCode (Text.trim l.2) = true
    · rw [if_pos hc, lineDepth_of_isCode hc]
      exact isGreatest_concat ih l
    · rw [if_neg hc, List.append_nil, lineDepth, if_neg hc]
      exact ih

/-! ### What a scan finds -/

theorem scanFrom_append (depth : Nat) (above below : List (Nat × List Char)) :
    scanFrom depth (above ++ below) =
      scanFrom depth above ++
        scanFrom (above.foldl (fun depth l => lineDepth depth l.2) depth) below := by
  induction above generalizing depth with
  | nil => rfl
  | cons l above ih =>
    rw [List.cons_append, scanFrom_cons, ih, scanFrom_cons depth l above, List.append_assoc]
    rfl

/-- Lines that are no code are passed over. -/
theorem scanFrom_codeLines (depth : Nat) (ls : List (Nat × List Char)) :
    scanFrom depth (codeLines ls) = scanFrom depth ls := by
  induction ls generalizing depth with
  | nil => rfl
  | cons l ls ih =>
    by_cases hc : isCode (Text.trim l.2) = true
    · have hl : codeLines (l :: ls) = l :: codeLines ls := List.filter_cons_of_pos hc
      simp only [hl, scanFrom, ih]
    · have hl : codeLines (l :: ls) = codeLines ls := List.filter_cons_of_neg hc
      rw [hl, ih, scanFrom_cons depth l, lineDepth, if_neg hc]
      simp [scanFrom, hc]

theorem sites_concat_of_isCode (ls : List (Nat × List Char)) {l : Nat × List Char}
    (h : isCode (Text.trim l.2) = true) : sites (ls ++ [l]) = sites ls ++ [⟨codeLines ls, l⟩] := by
  rw [sites, codeLines_concat, if_pos h, List.mapIdx_concat, List.take_left']
  · congr 1
    refine List.ext_getElem (by simp [sites]) fun i hi _ => ?_
    have hi : i < (codeLines ls).length := by simpa using hi
    simp [sites, List.take_append_of_le_length hi.le]
  · rfl

theorem sites_concat_of_not_isCode (ls : List (Nat × List Char)) {l : Nat × List Char}
    (h : ¬ isCode (Text.trim l.2) = true) : sites (ls ++ [l]) = sites ls := by
  rw [sites, codeLines_concat, if_neg h, List.append_nil, sites]

theorem exists_of_mem_sites {ls : List (Nat × List Char)} {site : Site} (h : site ∈ sites ls) :
    ∃ below, codeLines ls = site.above ++ site.line :: below := by
  obtain ⟨i, hi, rfl⟩ := List.mem_mapIdx.1 h
  exact ⟨(codeLines ls).drop (i + 1), by simp⟩

/-- The depth is zero where no run opens more than it closes. -/
theorem depthBehind_eq_zero_iff (ls : List (Nat × List Char)) :
    depthBehind ls = 0 ↔ ∀ run ∈ (codeLines ls).tails, opens run ≤ closes run := by
  obtain ⟨⟨run, hrun, hdepth⟩, hmax⟩ := isGreatest_depthBehind ls
  constructor
  · intro hzero run' hrun'
    have := hmax ⟨run', (List.mem_tails _ _).1 hrun', rfl⟩
    omega
  · intro houter
    have := houter run ((List.mem_tails _ _).2 hrun)
    omega

/-- What a scan finds on a line of code at the depth behind the lines above it. -/
theorem scanFrom_depthBehind (ls : List (Nat × List Char)) {l : Nat × List Char}
    (h : isCode (Text.trim l.2) = true) :
    scanFrom (depthBehind ls) [l] = (Site.declaration? ⟨codeLines ls, l⟩).toList := by
  have houter : (depthBehind ls == 0) =
      decide (∀ run ∈ (codeLines ls).tails, opens run ≤ closes run) := by
    rw [Bool.eq_iff_iff, beq_iff_eq, decide_eq_true_eq]
    exact depthBehind_eq_zero_iff ls
  obtain ⟨number, text⟩ := l
  simp only [scanFrom, if_pos h, Site.declaration?, houter, List.append_nil]

/-- A scan makes one declaration at most at each site. -/
theorem scan_eq_filterMap (ls : List (Nat × List Char)) :
    scan ls = (sites ls).filterMap Site.declaration? := by
  induction ls using List.reverseRecOn with
  | nil => rfl
  | append_singleton ls l ih =>
    rw [scan, scanFrom_append, ← scan, ih]
    change _ ++ scanFrom (depthBehind ls) [l] = _
    by_cases hc : isCode (Text.trim l.2) = true
    · rw [scanFrom_depthBehind ls hc, sites_concat_of_isCode ls hc, List.filterMap_append,
        List.filterMap_cons, List.filterMap_nil]
      cases Site.declaration? ⟨codeLines ls, l⟩ <;> rfl
    · rw [sites_concat_of_not_isCode ls hc]
      simp [scanFrom, hc]

/-- **The depth of a scan is a reflected walk.**  Let numbered lines be given, with any braces.  The
count with which a scan goes on behind some of them is the greatest surplus of opening braces in a
run of code that ends there.  The scan finds what is declared at the sites, in order: at most one
declaration on each line of code, and none on other lines.  A declaration stands at the top level
iff no run of code that ends right above it opens more braces than it closes. -/
theorem scan_reflected (ls : List (Nat × List Char)) :
    (∀ above below, ls = above ++ below →
      scan ls = scan above ++ scanFrom (depthBehind above) below ∧
        IsGreatest {n : Int | ∃ run, run <:+ codeLines above ∧ n = opens run - closes run}
          (depthBehind above)) ∧
      scan ls = (sites ls).filterMap Site.declaration? ∧
      ((scan ls).map (·.line)).Sublist ((codeLines ls).map Prod.fst) ∧
      ∀ x ∈ scan ls, ∃ above l below, codeLines ls = above ++ l :: below ∧ x.line = l.1 ∧
        classify (Text.trim l.2) = some (x.kind, x.name) ∧
        (x.topLevel = true ↔ ∀ run, run <:+ above → opens run ≤ closes run) := by
  refine ⟨?_, scan_eq_filterMap ls, ?_, fun x hx => ?_⟩
  · rintro above below rfl
    exact ⟨scanFrom_append 0 above below, isGreatest_depthBehind above⟩
  · rw [scan, ← scanFrom_codeLines]
    exact sublist_scanFrom 0 (codeLines ls)
  · rw [scan_eq_filterMap] at hx
    obtain ⟨site, hsite, hx⟩ := List.mem_filterMap.1 hx
    obtain ⟨below, hbelow⟩ := exists_of_mem_sites hsite
    obtain ⟨⟨kind, name⟩, hclass, rfl⟩ := Option.map_eq_some_iff.1 hx
    refine ⟨site.above, site.line, below, hbelow, rfl, hclass, ?_⟩
    simp only [decide_eq_true_eq, List.mem_tails]

/-- A brace too many at the top, a comment with a brace, and a line that closes more than it
opens. -/
def unbalanced : List (Nat × List Char) :=
  [(3, "\x7d".toList), (4, "int A;".toList), (5, "// \x7b".toList),
    (7, "void f(int N) \x7b".toList), (7, "  int B;".toList), (8, "\x7d\x7d int g() \x7b".toList),
    (2, "int *c;".toList)]

theorem scan_reflected_unbalanced :
    (scan unbalanced).map (fun x => (x.line, x.topLevel)) =
        [(4, true), (7, true), (7, false), (2, true)] ∧
      unbalanced = unbalanced.take 6 ++ [(2, "int *c;".toList)] ∧
      IsGreatest {n : Int | ∃ run, run <:+ codeLines (unbalanced.take 6) ∧
        n = opens run - closes run} 0 ∧
      ∃ x ∈ scan unbalanced, x.name = ['B'] ∧ ∃ above l below,
        codeLines unbalanced = above ++ l :: below ∧ x.line = l.1 ∧
          ∃ run, run <:+ above ∧ closes run < opens run := by
  obtain ⟨hdepth, -, -, hflag⟩ := scan_reflected unbalanced
  have hsplit : unbalanced = unbalanced.take 6 ++ [(2, "int *c;".toList)] := by decide
  have hmem : (⟨.plain, ['B'], 7, false⟩ : Declaration) ∈ scan unbalanced := by decide +kernel
  refine ⟨by decide +kernel, hsplit, (hdepth _ _ hsplit).2, _, hmem, rfl, ?_⟩
  obtain ⟨above, l, below, hcode, hline, -, hiff⟩ := hflag _ hmem
  refine ⟨above, l, below, hcode, hline, ?_⟩
  simpa only [not_forall, exists_prop, Nat.not_le] using mt hiff.2 Bool.false_ne_true

end StyleAudit.Declaration
