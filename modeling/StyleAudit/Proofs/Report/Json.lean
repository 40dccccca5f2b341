import Mathlib.Data.List.Forall2
import StyleAudit.Proofs.Report.Field
import StyleAudit.Proofs.Report.JsonReader
import StyleAudit.Proofs.Report.Tally

/-!
# Reading reports back from JSON

A report is written as an object whose counts are an object themselves.  `Report.ofJson?` takes a
value apart by the keys of its members, wherever they stand, and so reads a report back from the
value that was written (`Report.ofJson?_toJson`).  Together with a reader of the text, this gives
back whole lists of reports (`Report.json_lossless`).
-/

namespace StyleAudit

/-! ### Values taken apart -/

namespace JsonValue

/-- A truth value. -/
def bool? : JsonValue → Option Bool
  | .bool b => some b
  | _ => none

/-- A number. -/
def nat? : JsonValue → Option Nat
  | .nat n => some n
  | _ => none

/-- A string. -/
def str? : JsonValue → Option String
  | .str s => some s
  | _ => none

/-- The items of a list. -/
def items? : JsonValue → Option (List JsonValue)
  | .list items => some items
  | _ => none

/-- The members of an object. -/
def members? : JsonValue → Option (List (String × JsonValue))
  | .object members => some members
  | _ => none

/-- The value of a key of an object. -/
def member? (v : JsonValue) (key : String) : Option JsonValue := do
  (← v.members?).lookup key

end JsonValue

open JsonValue

/-- The finding that a value stands for. -/
def Diagnostic.ofJson? (v : JsonValue) : Option Diagnostic := do
  let line ← (← v.member? "line").nat?
  let severity ← Severity.ofName? (← (← v.member? "severity").str?)
  let rule ← RuleId.ofName? (← (← v.member? "rule").str?)
  let message ← (← v.member? "message").str?
  return ⟨line, severity, rule, message⟩

theorem Diagnostic.ofJson?_toJson (d : Diagnostic) : ofJson? d.toJson = some d := by
  simp [ofJson?, toJson, member?, members?, nat?, str?, List.lookup_cons, Severity.ofName?_name,
    RuleId.ofName?_name]

/-- The failure that a value stands for. -/
def RuleFailure.ofJson? (v : JsonValue) : Option RuleFailure := do
  let rule ← RuleId.ofName? (← (← v.member? "rule").str?)
  let message ← (← v.member? "message").str?
  return ⟨rule, message⟩

theorem RuleFailure.ofJson?_toJson (f : RuleFailure) : ofJson? f.toJson = some f := by
  simp [ofJson?, toJson, member?, members?, str?, List.lookup_cons, RuleId.ofName?_name]

/-- Items that are read back one by one are read back together. -/
theorem mapM_map_eq_some {α β : Type} {f : α → β} {g : β → Option α}
    (h : ∀ a, g (f a) = some a) (items : List α) : (items.map f).mapM g = some items := by
  induction items with
  | nil => rfl
  | cons a items ih => simp [h, ih]

namespace Report

/-- The count that a member stands for. -/
def countOfJson? (member : String × JsonValue) : Option (RuleId × Nat) := do
  return (← RuleId.ofName? member.1, ← member.2.nat?)

theorem countOfJson?_eq (c : RuleId × Nat) : countOfJson? (c.1.name, .nat c.2) = some c := by
  simp [countOfJson?, nat?, RuleId.ofName?_name]

/-- The report that a value stands for. -/
def ofJson? (v : JsonValue) : Option Report := do
  let path ← (← v.member? "path").str?
  let counts ← (← (← v.member? "per_rule_counts").members?).mapM countOfJson?
  let diagnostics ← (← (← v.member? "diagnostics").items?).mapM Diagnostic.ofJson?
  let hasIssues ← (← v.member? "overall_issue_flag").bool?
  let failures ← (← (← v.member? "failures").items?).mapM RuleFailure.ofJson?
  return ⟨⟨path⟩, counts, diagnostics, hasIssues, failures⟩

/-- A report is read back from its value. -/
theorem ofJson?_toJson (report : Report) : ofJson? report.toJson = some report := by
  have hcounts := mapM_map_eq_some countOfJson?_eq report.counts
  have hdiagnostics := mapM_map_eq_some Diagnostic.ofJson?_toJson report.diagnostics
  have hfailures := mapM_map_eq_some RuleFailure.ofJson?_toJson report.failures
  simp [ofJson?, toJson, member?, members?, items?, str?, bool?, List.lookup_cons, hcounts,
    hdiagnostics, hfailures]

theorem toJson_injective : Function.Injective toJson := fun report report' h => by
  rw [← Option.some_inj, ← ofJson?_toJson, h, ofJson?_toJson]

/-! ### Lists of reports -/

theorem read_json (reports : List Report) :
    JsonValue.read (json reports) = some (.list (reports.map toJson)) :=
  read_render _

/-- The members that counts are written as, if they are a map in catalog order: one for each rule
that has a count. -/
theorem Ordered.map_toJson {report : Report} (h : Ordered report.counts) :
    report.counts.map (fun c => (c.1.name, JsonValue.nat c.2)) =
      (RuleId.all.filter fun r => (report.count? r).isSome).map fun r =>
        (r.name, .nat (report.count r)) := by
  have hrules : report.counts.map Prod.fst =
      RuleId.all.filter fun r => (report.count? r).isSome := by
    refine h.inOrder.eq_of_mem_iff (List.Pairwise.filter _ RuleId.all_inOrder) fun r => ?_
    rw [List.mem_filter, count?_isSome_iff]
    exact (and_iff_right (RuleId.mem_all r)).symm
  rw [← hrules, List.map_map]
  refine List.map_congr_left fun c hc => ?_
  have hcount : report.count? c.1 = some c.2 := h.mem_iff.1 hc
  simp [count, hcount]

/-- **JSON loses nothing.**  A reader of the format gets a list with one object for each report, in
order, and the report can be read back from the object: its path, its counts, its findings, its flag
and its failures.  If the counts are a map in catalog order, the object of the counts has one member
for each rule with a count, in catalog order and under its name, and no name occurs twice.  So the
text determines the reports. -/
theorem json_lossless (reports : List Report) :
    (∃ items, JsonValue.read (json reports) = some (.list items) ∧
      List.Forall₂ (fun item report => ofJson? item = some report ∧
        (Ordered report.counts → ∃ members,
          item.member? "per_rule_counts" = some (.object members) ∧
          members = (RuleId.all.filter fun r => (report.count? r).isSome).map (fun r =>
            (r.name, .nat (report.count r))) ∧
          (members.map Prod.fst).Nodup)) items reports) ∧
      ∀ reports' : List Report, json reports' = json reports → reports' = reports := by
  refine ⟨⟨reports.map toJson, read_json reports, ?_⟩, fun reports' h => ?_⟩
  · rw [List.forall₂_map_left_iff, List.forall₂_same]
    intro report _
    refine ⟨ofJson?_toJson report, fun hordered => ⟨_, rfl, hordered.map_toJson, ?_⟩⟩
    rw [List.map_map]
    have hnodup := hordered.inOrder.nodup.map RuleId.name_injective
    rwa [List.map_map] at hnodup
  · have hread := read_json reports'
    rw [h, read_json reports, Option.some_inj, JsonValue.list.injEq] at hread
    exact toJson_injective.list_map hread.symm

/-- A report whose texts have to be escaped, and one without findings. -/
def escaping : List Report :=
  [((start ⟨"a\"b.c"⟩).record .repetition [.of .repetition 2 "x\t\x01\\"]).recordFailure .typeCase
      (.rule "declarations" "y\n"),
    (start ⟨""⟩).record .totalLines []]

theorem json_lossless_escaping :
    (∀ report ∈ escaping, Ordered report.counts) ∧
      ∃ item item', JsonValue.read (json escaping) = some (.list [item, item']) ∧
        [ofJson? item, ofJson? item'] = escaping.map some ∧
        item.member? "per_rule_counts" =
          some (.object [("modularization_repetition", .nat 1)]) := by
  have hordered : ∀ report ∈ escaping, Ordered report.counts := by
    unfold Ordered
    decide
  obtain ⟨⟨items, hread, hitems⟩, -⟩ := json_lossless escaping
  obtain ⟨item, rest, ⟨hitem, hcounts⟩, hrest, rfl⟩ := List.forall₂_cons_right_iff.1 hitems
  obtain ⟨item', rest, ⟨hitem', -⟩, hnil, rfl⟩ := List.forall₂_cons_right_iff.1 hrest
  obtain rfl := List.forall₂_nil_right_iff.1 hnil
  refine ⟨hordered, item, item', hread, by rw [hitem, hitem']; rfl, ?_⟩
  obtain ⟨members, hmember, rfl, -⟩ := hcounts (hordered _ List.mem_cons_self)
  exact hmember

end Report

end StyleAudit
