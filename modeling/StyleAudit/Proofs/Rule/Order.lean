import Mathlib.Data.List.Nodup
import StyleAudit.Proofs.Rule.Anchor

/-!
# Order of findings

Every rule of the catalog makes its findings on lines that ascend strictly
(`Rule.evaluate_ascending`).  Most rules go through the lines or the declarations of a document in
order and make one finding on each at most.  Two rules gather first and report then: repeated blocks
are reported at the first of them, in the order of these (`Rule.ascending_occurrences`), and a
function at its first definition (`Rule.sublist_definitions`).  The remaining rules make one finding
at most.
-/

namespace StyleAudit

/-- The lines of items ascend strictly. -/
def Ascending {α : Type} (line : α → Nat) (items : List α) : Prop :=
  items.Pairwise fun a b => line a < line b

namespace Ascending

variable {α : Type} {line : α → Nat} {items : List α}

theorem sublist {items' : List α} (hs : items'.Sublist items) (h : Ascending line items) :
    Ascending line items' :=
  List.Pairwise.sublist hs h

theorem filter (selects : α → Bool) (h : Ascending line items) :
    Ascending line (items.filter selects) :=
  h.sublist List.filter_sublist

/-- Items whose lines are among ascending ones, in order, have ascending lines. -/
theorem of_sublist {β : Type} {line' : β → Nat} {items' : List β}
    (hs : (items'.map line').Sublist (items.map line)) (h : Ascending line items) :
    Ascending line' items' :=
  List.pairwise_map.1 ((List.pairwise_map.2 h).sublist hs)

theorem single (r : RuleId) (n : Nat) (message : String) :
    Ascending Diagnostic.line [.of r n message] :=
  List.pairwise_singleton _ _

/-- One finding for each item. -/
theorem map {r : RuleId} (h : Ascending line items) (message : α → String) :
    Ascending Diagnostic.line (items.map fun a => .of r (line a) (message a)) :=
  List.pairwise_map.2 h

/-- One finding for each item that has a problem. -/
theorem filterMap {r : RuleId} (h : Ascending line items) (problem : α → Option String) :
    Ascending Diagnostic.line (items.filterMap fun a => (problem a).map (.of r (line a) ·)) := by
  refine List.Pairwise.filterMap _ (fun a a' hlt f hf f' hf' => ?_) h
  obtain ⟨_, -, rfl⟩ := Option.map_eq_some_iff.1 hf
  obtain ⟨_, -, rfl⟩ := Option.map_eq_some_iff.1 hf'
  exact hlt

/-- The findings on the line of an item are those on the item. -/
theorem mem_filterMap_iff (h : Ascending line items) {r : RuleId} (problem : α → Option String)
    {a : α} (ha : a ∈ items) {f : Diagnostic} :
    (f ∈ items.filterMap fun a => (problem a).map (Diagnostic.of r (line a) ·)) ∧
        f.line = line a ↔
      ∃ message, problem a = some message ∧ f = .of r (line a) message := by
  have hinj := List.inj_on_of_nodup_map ((List.pairwise_map.2 h).imp Nat.ne_of_lt)
  constructor
  · rintro ⟨hf, he⟩
    obtain ⟨a', ha', hf⟩ := List.mem_filterMap.1 hf
    obtain ⟨message, hm, rfl⟩ := Option.map_eq_some_iff.1 hf
    obtain rfl : a' = a := hinj ha' ha he
    exact ⟨message, hm, rfl⟩
  · rintro ⟨message, hm, rfl⟩
    exact ⟨List.mem_filterMap.2 ⟨a, ha, by rw [hm]; rfl⟩, rfl⟩

end Ascending

/-! ### Lines and declarations -/

namespace Document

theorem ascending_number (first : Nat) (raws : List RawLine) :
    Ascending Line.number (number first raws) := by
  rw [number_eq_mapIdx, Ascending, List.pairwise_iff_getElem]
  intro i j hi hj hij
  simp only [List.getElem_mapIdx, Line.ofRaw]
  omega

theorem ascending_ofBytes (path : Path) (bytes : List UInt8) :
    Ascending Line.number (ofBytes path bytes).lines :=
  ascending_number 1 _

end Document

/-- A scan finds one declaration on each line at most. -/
theorem Declaration.sublist_scanFrom (depth : Nat) (ls : List (Nat × List Char)) :
    ((scanFrom depth ls).map (·.line)).Sublist (ls.map Prod.fst) := by
  induction ls generalizing depth with
  | nil => exact .slnil
  | cons l ls ih =>
    obtain ⟨number, text⟩ := l
    rw [scanFrom]
    split_ifs
    · cases classify (Text.trim text) with
      | none => exact (ih _).cons _
      | some declared => exact (ih _).cons_cons _
    · exact (ih _).cons _

theorem Document.ascending_declarations {d : Document} (hd : Ascending Line.number d.lines) :
    Ascending Declaration.line d.declarations := by
  refine hd.of_sublist ?_
  have h := Declaration.sublist_scanFrom 0 (d.lines.map fun l => (l.number, l.text))
  rwa [List.map_map] at h

namespace Rule

variable {d : Document} {s : Session} {found : List Diagnostic}

/-! ### Rules on lines -/

theorem includeDirective_ascending (d : Document) :
    Ascending Diagnostic.line (includeDirective d) := by
  unfold includeDirective
  split_ifs
  · exact .nil
  · split
    · split_ifs
      · exact .nil
      · exact .single _ _ _
    · exact .single _ _ _

theorem totalLines_ascending (t : Thresholds) (d : Document) :
    Ascending Diagnostic.line (totalLines t d) := by
  unfold totalLines
  split_ifs
  · exact .nil
  · exact .single _ _ _

theorem sublist_zip (ls : List Line) (events : List LineEvent) :
    ((ls.zip events).map (·.1.number)).Sublist (ls.map (·.number)) := by
  induction ls generalizing events with
  | nil => exact .slnil
  | cons l ls ih =>
    cases events with
    | nil => exact List.nil_sublist _
    | cons e events => exact (ih events).cons_cons _

theorem indentationSpacing_ascending (hd : Ascending Line.number d.lines) (width : Nat)
    (events : List LineEvent) : Ascending Diagnostic.line (indentationSpacing width d events) := by
  have h : Ascending (fun p : Line × LineEvent => p.1.number) (d.lines.zip events) :=
    hd.of_sublist (sublist_zip d.lines events)
  exact h.filterMap fun p => indentationProblem width p.1 p.2

theorem evaluateIndentation_ascending (hd : Ascending Line.number d.lines)
    (h : (evaluateIndentation d s).1 = .ok found) : Ascending Diagnostic.line found := by
  simp only [evaluateIndentation] at h
  split at h
  · cases h
    exact indentationSpacing_ascending hd _ _
  · cases h

theorem indentedLines_ascending (hd : Ascending Line.number d.lines) :
    Ascending Prod.fst (indentedLines d) := by
  refine List.Pairwise.filterMap _ (fun l l' hlt p hp p' hp' => ?_) hd
  obtain ⟨_, -, rfl⟩ := Option.map_eq_some_iff.1 hp
  obtain ⟨_, -, rfl⟩ := Option.map_eq_some_iff.1 hp'
  exact hlt

theorem indentationChar_ascending (hd : Ascending Line.number d.lines) :
    Ascending Diagnostic.line (indentationChar d) := by
  have h := indentedLines_ascending hd
  unfold indentationChar
  split
  · exact .nil
  · rename_i hl
    rw [hl] at h
    exact .map ((h.sublist (List.sublist_cons_self _ _)).filter _) _

theorem lineEndings_ascending (d : Document) : Ascending Diagnostic.line (lineEndings d) := by
  unfold lineEndings
  split
  · exact .nil
  · rename_i first rest _
    cases rest.find? fun l => l.ending != first.ending with
    | none => exact .nil
    | some l => exact .single _ _ _

theorem closingBrace_ascending (d : Document) : Ascending Diagnostic.line (closingBrace d) := by
  unfold closingBrace
  split
  · exact .nil
  · split_ifs
    · exact .nil
    · exact .single _ _ _

/-! ### Rules on structure -/

/-- One block starts on each line at most. -/
theorem sublist_blocks (length : Nat) (ls : List Line) :
    ((blocks length ls).map (·.start)).Sublist (ls.map (·.number)) := by
  induction ls with
  | nil => exact .slnil
  | cons l ls ih =>
    rw [blocks]
    split_ifs
    · exact List.nil_sublist _
    · exact ih.cons_cons _

/-- Texts of blocks are listed in the order of the first block of each. -/
theorem ascending_occurrences {bs : List Block} (h : Ascending Block.start bs) :
    Ascending (fun o => o.2.headD 0) (occurrences bs) := by
  induction bs with
  | nil => exact .nil
  | cons b bs ih =>
    obtain ⟨hb, hbs⟩ := List.pairwise_cons.1 h
    rw [occurrences]
    refine List.pairwise_cons.2 ⟨fun o ho => ?_, (ih hbs).filter _⟩
    -- the first start of a text that is listed later is the start of a later block
    obtain ⟨hpos, hstart⟩ := of_mem_occurrences (List.mem_filter.1 ho).1
    obtain ⟨n, ns, hn⟩ := List.exists_cons_of_length_pos hpos
    obtain ⟨b', hb', he⟩ := hstart n (by rw [hn]; exact List.mem_cons_self)
    simp only [hn, List.headD_cons, he]
    exact hb b' hb'

theorem evaluateRepetition_ascending (hd : Ascending Line.number d.lines)
    (h : evaluateRepetition d s = .ok found) : Ascending Diagnostic.line found := by
  unfold evaluateRepetition at h
  split_ifs at h
  cases h
  have hb : Ascending Block.start (blocks s.thresholds.sequenceLength d.lines) :=
    hd.of_sublist (sublist_blocks _ _)
  exact .map ((ascending_occurrences (hb.filter _)).filter _) _

theorem functionCount_ascending (t : Thresholds) (openings : List Nat) :
    Ascending Diagnostic.line (functionCount t openings) := by
  unfold functionCount
  split_ifs
  · exact .single _ _ _
  · split
    · exact .nil
    · exact .single _ _ _

theorem evaluateFunctionCount_ascending (h : (evaluateFunctionCount d s).1 = .ok found) :
    Ascending Diagnostic.line found := by
  unfold evaluateFunctionCount at h
  split_ifs at h
  · cases h
    exact .nil
  · cases h
    exact functionCount_ascending _ _
  · cases h
    exact functionCount_ascending _ _

/-- Functions are listed in the order of their first definitions. -/
theorem sublist_definitions (seen : List (List Char)) (ls : List Line) :
    ((definitions seen ls).map Prod.snd).Sublist (ls.map (·.number)) := by
  induction ls generalizing seen with
  | nil => exact .slnil
  | cons l ls ih =>
    rw [definitions]
    split
    · split_ifs
      · exact (ih _).cons _
      · exact (ih _).cons_cons _
    · exact (ih _).cons _

theorem codeReuse_ascending (hd : Ascending Line.number d.lines) :
    Ascending Diagnostic.line (codeReuse d) := by
  have h : Ascending Prod.snd (definitions [] d.lines) := hd.of_sublist (sublist_definitions _ _)
  exact .map (h.filter _) _

theorem memoryLeak_ascending (v : LeakVerdict) : Ascending Diagnostic.line (memoryLeak v) := by
  unfold memoryLeak
  split_ifs
  · exact .nil
  · split
    · exact .single _ _ _
    · exact .single _ _ _

theorem evaluateLeak_ascending {probe : LeakProbe} (h : (evaluateLeak probe d s).1 = .ok found) :
    Ascending Diagnostic.line found := by
  simp only [evaluateLeak] at h
  split_ifs at h
  · cases h
    exact .nil
  · generalize (probe d.path s.language s.disk).1 = verdict at h
    cases verdict with
    | error e => cases h
    | ok v =>
      cases h
      exact memoryLeak_ascending v

/-! ### Rules on names -/

theorem moduleName_ascending {declared : List Declaration}
    (h : Ascending Declaration.line declared) :
    Ascending Diagnostic.line (moduleName declared) := by
  have hm : Ascending Declaration.line (fromModule declared) :=
    (h.filter _).sublist (List.dropWhile_sublist _)
  unfold moduleName
  split
  · exact .nil
  · rename_i hl
    rw [hl] at hm
    exact .map ((hm.sublist (List.sublist_cons_self _ _)).filter _) _

theorem onDeclarations_ascending {f : List Declaration → List Diagnostic}
    (hs : ∀ declared, (s.declarations d).1 = .ok declared → Ascending Diagnostic.line (f declared))
    (h : (onDeclarations f d s).1 = .ok found) : Ascending Diagnostic.line found := by
  simp only [onDeclarations] at h
  cases hr : (s.declarations d).1 with
  | error e => rw [hr] at h; cases h
  | ok declared =>
    rw [hr] at h
    cases h
    exact hs declared hr

theorem evaluateModule_ascending
    (hs : ∀ declared, (s.declarations d).1 = .ok declared → Ascending Declaration.line declared)
    (h : (evaluateModule d s).1 = .ok found) : Ascending Diagnostic.line found := by
  unfold evaluateModule at h
  split at h
  · cases h
  · rename_i declared s' hr
    cases h
    exact moduleName_ascending (hs declared (by rw [hr]))

/-- **Lines of findings ascend strictly**, for every rule of the catalog, if the numbers of lines
and the lines of declarations do. -/
theorem evaluate_ascending {probe : LeakProbe} {r : RuleId} (hd : Ascending Line.number d.lines)
    (hs : ∀ declared, (s.declarations d).1 = .ok declared → Ascending Declaration.line declared)
    (h : (evaluate probe r d s).1 = .ok found) : Ascending Diagnostic.line found := by
  cases r with
  | functionCase => exact onDeclarations_ascending (fun x hx => .map ((hs x hx).filter _) _) h
  | variableCase => exact onDeclarations_ascending (fun x hx => .filterMap ((hs x hx).filter _) _) h
  | pointerName => exact onDeclarations_ascending (fun x hx => .map ((hs x hx).filter _) _) h
  | moduleName => exact evaluateModule_ascending hs h
  | typeCase => exact onDeclarations_ascending (fun x hx => .map ((hs x hx).filter _) _) h
  | repetition => exact evaluateRepetition_ascending hd h
  | functionCount => exact evaluateFunctionCount_ascending h
  | memoryLeak => exact evaluateLeak_ascending h
  | includeDirective => cases h; exact includeDirective_ascending d
  | totalLines => cases h; exact totalLines_ascending _ d
  | indentationSpacing => exact evaluateIndentation_ascending hd h
  | indentationChar => cases h; exact indentationChar_ascending hd
  | lineEndings => cases h; exact lineEndings_ascending d
  | closingBrace => cases h; exact closingBrace_ascending d
  | codeReuse => cases h; exact codeReuse_ascending hd
  | indentationTabs => cases h; exact .map (hd.filter _) _
  | includeForm => cases h; exact .map (hd.filter _) _
  | encoding => cases h; exact .map (hd.filter _) _
  | excessWhitespace => cases h; exact .map (hd.filter _) _
  | trailingWhitespace => cases h; exact .map (hd.filter _) _

end Rule

end StyleAudit
