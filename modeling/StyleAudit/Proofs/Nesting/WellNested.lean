import StyleAudit.Declaration.Scan
import StyleAudit.Proofs.Nesting.Reachable
import StyleAudit.Proofs.Text.Blank
import StyleAudit.Rule.Structure

/-!
# Programs that are well nested

Two estimates of depth are made of a source.  `Nesting.observe` looks for keywords and for braces
at the ends of lines, and `Declaration.scan` counts braces.  Neither parses, and on arbitrary lines
they differ from each other and from the nesting that a reader sees.

`Program` is the syntax of sources with one brace a line in the places where it is expected:
functions, and inside them blocks behind control keywords, perhaps reopened on the line that closes
them.  `Program.outline` gives each line the depth that the syntax says.  On every such program both
estimates follow the outline line by line (`Program.walk_outline`), and what the estimate of nesting
takes for the start of a function is one (`Program.depths_agree`).
-/

namespace StyleAudit

namespace Program

/-! ### Lines -/

/-- A line has at most one brace of each kind, and an opening one stands at its end. -/
@[mk_iff]
structure Braces (opens closes : Bool) (line : List Char) : Prop where
  /-- The number of opening braces. -/
  count_open : line.count '\x7b' = opens.toNat
  /-- The number of closing braces. -/
  count_close : line.count '\x7d' = closes.toNat
  /-- An opening brace ends the trimmed line. -/
  getLast?_trim : opens = true → (Text.trim line).getLast? = some '\x7b'

/-- A line that starts neither a directive nor a comment. -/
@[mk_iff]
structure StartsCode (line : List Char) : Prop where
  /-- It is no directive. -/
  directive : ¬ ['#'] <+: Text.trim line
  /-- It starts no comment up to its end. -/
  lineComment : ¬ ['/', '/'] <+: Text.trim line
  /-- It starts no comment over several lines. -/
  blockComment : ¬ ['/', '*'] <+: Text.trim line

/-- A control keyword of the language stands in the line, perhaps inside a longer word. -/
def HasKeyword (language : Language) (line : List Char) : Prop :=
  ∃ k ∈ language.keywords, k.toList <:+: line

/-- A line without braces, or one that is skipped: blank, or a comment with any content. -/
def Neutral (line : List Char) : Prop :=
  Braces false false line ∨ Text.isBlankOrComment (Text.trim line) = true

/-- A line that opens a function. -/
def OpensFunction (line : List Char) : Prop :=
  Braces true false line ∧ StartsCode line ∧ '(' ∈ line

/-- A line that opens a block behind a keyword. -/
def OpensBlock (language : Language) (line : List Char) : Prop :=
  Braces true false line ∧ StartsCode line ∧ HasKeyword language line

/-- A line that closes a block and opens the next one behind a keyword. -/
def ReopensBlock (language : Language) (line : List Char) : Prop :=
  Braces true true line ∧ StartsCode line ∧ HasKeyword language line

/-- A line that closes a function or a block. -/
def Closes (line : List Char) : Prop := Braces false true line ∧ StartsCode line

instance (opens closes : Bool) (line : List Char) : Decidable (Braces opens closes line) :=
  decidable_of_iff _ (braces_iff opens closes line).symm

instance (line : List Char) : Decidable (StartsCode line) :=
  decidable_of_iff _ (startsCode_iff line).symm

instance (language : Language) (line : List Char) : Decidable (HasKeyword language line) :=
  inferInstanceAs (Decidable (∃ k ∈ language.keywords, k.toList <:+: line))

instance (line : List Char) : Decidable (Neutral line) :=
  inferInstanceAs (Decidable (_ ∨ _))

instance (line : List Char) : Decidable (OpensFunction line) :=
  inferInstanceAs (Decidable (_ ∧ _ ∧ _))

instance (language : Language) (line : List Char) : Decidable (OpensBlock language line) :=
  inferInstanceAs (Decidable (_ ∧ _ ∧ _))

instance (language : Language) (line : List Char) : Decidable (ReopensBlock language line) :=
  inferInstanceAs (Decidable (_ ∧ _ ∧ _))

instance (line : List Char) : Decidable (Closes line) :=
  inferInstanceAs (Decidable (_ ∧ _))

/-! ### Syntax -/

mutual

/-- The inside of a function or of a block. -/
inductive Block (language : Language) where
  /-- Nothing more. -/
  | done
  /-- A line that does not nest. -/
  | neutral (line : { line // Neutral line }) (rest : Block language)
  /-- A block inside. -/
  | nested (line : { line // OpensBlock language line }) (arms : Arms language)
    (rest : Block language)

/-- What follows the line that opens a block, up to the line that closes it for good. -/
inductive Arms (language : Language) where
  /-- The block is closed. -/
  | closed (body : Block language) (line : { line // Closes line })
  /-- The block is closed and reopened. -/
  | reopened (body : Block language) (line : { line // ReopensBlock language line })
    (arms : Arms language)

end

end Program

/-- A well-nested source. -/
inductive Program (language : Language) where
  /-- Nothing more. -/
  | done
  /-- A line that does not nest. -/
  | neutral (line : { line // Program.Neutral line }) (rest : Program language)
  /-- A function. -/
  | function (head : { line // Program.OpensFunction line }) (body : Program.Block language)
    (last : { line // Program.Closes line }) (rest : Program language)

namespace Program

/-- A line of a program, as its syntax places it. -/
structure Mark where
  /-- The line. -/
  line : List Char
  /-- The number of functions and blocks that are open behind it. -/
  depth : Nat
  /-- Whether it opens a function. -/
  isHead : Bool := false

variable {language : Language}

mutual

/-- The lines of the inside of `depth` functions and blocks. -/
def Block.outline (depth : Nat) : Block language → List Mark
  | .done => []
  | .neutral line rest => ⟨line, depth, false⟩ :: rest.outline depth
  | .nested line arms rest =>
    ⟨line, depth + 1, false⟩ :: (arms.outline depth ++ rest.outline depth)

/-- The lines behind the one that opens a block at `depth`. -/
def Arms.outline (depth : Nat) : Arms language → List Mark
  | .closed body line => body.outline (depth + 1) ++ [⟨line, depth, false⟩]
  | .reopened body line arms =>
    body.outline (depth + 1) ++ ⟨line, depth + 1, false⟩ :: arms.outline depth

end

/-- The lines of a program. -/
def outline : Program language → List Mark
  | .done => []
  | .neutral line rest => ⟨line, 0, false⟩ :: rest.outline
  | .function head body last rest =>
    ⟨head, 1, true⟩ :: (body.outline 1 ++ ⟨last, 0, false⟩ :: rest.outline)

/-- The texts of the lines. -/
def lines (p : Program language) : List (List Char) := p.outline.map (·.line)

/-- The depth behind each line. -/
def depths (p : Program language) : List Nat := p.outline.map (·.depth)

/-- The number of functions. -/
def functions : Program language → Nat
  | .done => 0
  | .neutral _ rest => rest.functions
  | .function _ _ _ rest => rest.functions + 1

end Program

/-- The depth of braces behind a line as it stands. -/
def Declaration.lineDepth (depth : Nat) (line : List Char) : Nat :=
  if isCode (Text.trim line) then depthAfter depth (Text.trim line) else depth

/-- A scan goes on behind a line at the depth behind it. -/
theorem Declaration.scanFrom_cons (depth : Nat) (l : Nat × List Char)
    (rest : List (Nat × List Char)) :
    scanFrom depth (l :: rest) = scanFrom depth [l] ++ scanFrom (lineDepth depth l.2) rest := by
  obtain ⟨number, line⟩ := l
  simp only [scanFrom, lineDepth]
  split_ifs
  · simp
  · simp

namespace Program

open Nesting Declaration

variable {language : Language} {line : List Char} {opens closes : Bool} {depth : Nat}

/-! ### Steps -/

theorem Braces.endsIn_trim (h : Braces opens closes line) :
    Text.endsIn '\x7b' (Text.trim line) = opens := by
  cases opens with
  | true => simp [Text.endsIn, h.getLast?_trim rfl]
  | false =>
    have hc : '\x7b' ∉ Text.trim line := by
      rw [Text.mem_trim_iff (by decide), ← List.count_eq_zero]
      exact h.count_open
    rw [Text.endsIn, beq_eq_false_iff_ne]
    exact fun hl => hc (List.mem_of_getLast? hl)

theorem Braces.contains_trim (h : Braces opens closes line) :
    (Text.trim line).contains '\x7d' = closes := by
  have hc : '\x7d' ∈ Text.trim line ↔ closes = true := by
    rw [Text.mem_trim_iff (by decide), ← List.count_pos_iff, h.count_close]
    cases closes <;> decide
  rw [Bool.eq_iff_iff, List.contains_iff_mem, hc]

theorem Braces.depthAfter_trim (h : Braces opens closes line) (depth : Nat) :
    depthAfter depth (Text.trim line) = depth + opens.toNat - closes.toNat := by
  rw [depthAfter, Text.count_trim (by decide), Text.count_trim (by decide), h.count_open,
    h.count_close]

theorem StartsCode.isBlankOrComment_trim (h : StartsCode line) (hne : Text.trim line ≠ []) :
    Text.isBlankOrComment (Text.trim line) = false := by
  rw [Text.isBlankOrComment, Bool.or_eq_false_iff, Bool.or_eq_false_iff, ← Bool.not_eq_true,
    ← Bool.not_eq_true, ← Bool.not_eq_true, List.isPrefixOf_iff_prefix, List.isPrefixOf_iff_prefix,
    List.isEmpty_iff]
  exact ⟨⟨hne, h.lineComment⟩, h.blockComment⟩

theorem StartsCode.isCode_trim (h : StartsCode line) (hne : Text.trim line ≠ []) :
    isCode (Text.trim line) = true := by
  have hd : ['#'].isPrefixOf (Text.trim line) = false := by
    rw [← Bool.not_eq_true, List.isPrefixOf_iff_prefix]
    exact h.directive
  rw [isCode, h.isBlankOrComment_trim hne, hd]
  rfl

theorem Braces.trim_ne_nil (h : Braces opens closes line) (hb : opens = true ∨ closes = true) :
    Text.trim line ≠ [] := by
  intro hn
  rcases hb with rfl | rfl
  · simpa [hn] using h.getLast?_trim rfl
  · simpa [hn] using h.contains_trim

theorem not_isBlank_of_mem_keywords {k : String} (hk : k ∈ language.keywords) :
    ∀ c ∈ k.toList, Text.isBlank c = false := by
  have h : (language.keywords.all fun k => k.toList.all fun c => !Text.isBlank c) = true := by
    cases language <;> decide +kernel
  simpa using List.all_eq_true.1 h k hk

theorem HasKeyword.keywordIn_isSome (h : HasKeyword language line) (depth : Nat) :
    ((atDepth language.keywords depth).keywordIn (Text.trim line)).isSome = true := by
  obtain ⟨k, hk, hi⟩ := h
  rw [keywordIn, List.find?_isSome]
  exact ⟨k, hk, Text.occursIn_iff.2 (Text.infix_trim (not_isBlank_of_mem_keywords hk) hi)⟩

/-- Both estimates at a depth follow a mark: they reach its depth, and a function is seen to open
iff one does. -/
structure Step (language : Language) (depth : Nat) (m : Mark) : Prop where
  /-- The state of the estimate of nesting. -/
  observe : ((atDepth language.keywords depth).observe m.line).2 =
    atDepth language.keywords m.depth
  /-- The event of the line. -/
  event : ((atDepth language.keywords depth).observe m.line).1 = .functionOpened ↔ m.isHead = true
  /-- The count of braces. -/
  scan : lineDepth depth m.line = m.depth

theorem Step.of_step {m : Mark} {event : LineEvent}
    (h : (atDepth language.keywords depth).step (Text.trim m.line) =
      (event, atDepth language.keywords m.depth))
    (he : event = .functionOpened ↔ m.isHead = true) (hs : lineDepth depth m.line = m.depth) :
    Step language depth m := by
  refine ⟨congrArg Prod.snd h, ?_, hs⟩
  rw [Nesting.observe, h]
  exact he

/-- A line that opens or closes a level inside a function, the former behind a keyword. -/
theorem Braces.step (h : Braces opens closes line) (hc : StartsCode line)
    (hb : opens = true ∨ closes = true) (hk : opens = true → HasKeyword language line)
    (hd : 0 < depth) : Step language depth ⟨line, depth + opens.toNat - closes.toNat, false⟩ := by
  have hne := h.trim_ne_nil hb
  have hscan : lineDepth depth line = depth + opens.toNat - closes.toNat := by
    rw [lineDepth, hc.isCode_trim hne, if_pos rfl, h.depthAfter_trim]
  have hs := step_atDepth_pos language.keywords hd (Text.trim line)
  rw [hc.isBlankOrComment_trim hne, if_neg Bool.false_ne_true, h.endsIn_trim,
    h.contains_trim] at hs
  cases hw : (atDepth language.keywords depth).keywordIn (Text.trim line) with
  | some k =>
    rw [hw] at hs
    exact .of_step hs (by simp) hscan
  | none =>
    -- without a keyword the line opens nothing
    have ho : opens = false := by
      rw [← Bool.not_eq_true]
      intro ho
      have := (hk ho).keywordIn_isSome depth
      rw [hw] at this
      cases this
    subst ho
    rw [hw] at hs
    exact .of_step hs (by simp) hscan

theorem Neutral.step (h : Neutral line) (depth : Nat) :
    Step language depth ⟨line, depth, false⟩ := by
  -- a skipped line may hold any braces, so that it is set apart first
  by_cases hs : Text.isBlankOrComment (Text.trim line) = true
  · have hn : (atDepth language.keywords depth).step (Text.trim line) =
        (.skipped, atDepth language.keywords depth) := if_pos hs
    exact .of_step hn (by simp) (by simp [lineDepth, isCode, hs])
  · have hb := h.resolve_right hs
    have hscan : lineDepth depth line = depth := by
      rw [lineDepth, hb.depthAfter_trim]
      exact ite_self _
    have hn : opensFunction (Text.trim line) = false := by
      rw [opensFunction, hb.endsIn_trim, Bool.and_false]
    rcases Nat.eq_zero_or_pos depth with rfl | hd
    · have hz := step_atDepth_zero language.keywords (Text.trim line)
      rw [if_neg hs, hn, if_neg Bool.false_ne_true] at hz
      exact .of_step hz (by simp) hscan
    · have hp := step_atDepth_pos language.keywords hd (Text.trim line)
      rw [if_neg hs, hb.endsIn_trim, hb.contains_trim] at hp
      cases hw : (atDepth language.keywords depth).keywordIn (Text.trim line) with
      | some k =>
        rw [hw] at hp
        exact .of_step hp (by simp) hscan
      | none =>
        rw [hw] at hp
        exact .of_step hp (by simp) hscan

theorem OpensFunction.step (h : OpensFunction line) : Step language 0 ⟨line, 1, true⟩ := by
  obtain ⟨hb, hc, hp⟩ := h
  have hne := hb.trim_ne_nil (.inl rfl)
  have ho : opensFunction (Text.trim line) = true := by
    rw [opensFunction, hb.endsIn_trim, Bool.and_true, List.contains_iff_mem,
      Text.mem_trim_iff (by decide)]
    exact hp
  have hz := step_atDepth_zero language.keywords (Text.trim line)
  rw [hc.isBlankOrComment_trim hne, if_neg Bool.false_ne_true, ho, if_pos rfl] at hz
  refine .of_step hz (by simp) ?_
  rw [lineDepth, hc.isCode_trim hne, if_pos rfl, hb.depthAfter_trim]
  rfl

theorem OpensBlock.step (h : OpensBlock language line) (hd : 0 < depth) :
    Step language depth ⟨line, depth + 1, false⟩ :=
  h.1.step h.2.1 (.inl rfl) (fun _ => h.2.2) hd

theorem ReopensBlock.step (h : ReopensBlock language line) (depth : Nat) :
    Step language (depth + 1) ⟨line, depth + 1, false⟩ :=
  h.1.step h.2.1 (.inl rfl) (fun _ => h.2.2) (Nat.succ_pos depth)

theorem Closes.step (h : Closes line) (depth : Nat) :
    Step language (depth + 1) ⟨line, depth, false⟩ :=
  h.1.step h.2 (.inr rfl) (by simp) (Nat.succ_pos depth)

/-! ### Walks -/

/-- Both estimates follow marks from one depth to another. -/
inductive Walk (language : Language) : Nat → List Mark → Nat → Prop where
  /-- No line. -/
  | nil {depth : Nat} : Walk language depth [] depth
  /-- A line, and those behind it. -/
  | cons {depth depth' : Nat} {m : Mark} {ms : List Mark} : Step language depth m →
    Walk language m.depth ms depth' → Walk language depth (m :: ms) depth'

theorem Walk.append {a b c : Nat} {ms ms' : List Mark} (h : Walk language a ms b)
    (h' : Walk language b ms' c) : Walk language a (ms ++ ms') c := by
  induction h with
  | nil => exact h'
  | cons hs _ ih => exact .cons hs (ih h')

mutual

theorem Block.walk_outline (b : Block language) {depth : Nat} (hd : 0 < depth) :
    Walk language depth (b.outline depth) depth := by
  match b with
  | .done => exact .nil
  | .neutral line rest => exact .cons (line.2.step depth) (rest.walk_outline hd)
  | .nested line arms rest =>
    exact .cons (line.2.step hd) ((arms.walk_outline hd).append (rest.walk_outline hd))

theorem Arms.walk_outline (a : Arms language) {depth : Nat} (hd : 0 < depth) :
    Walk language (depth + 1) (a.outline depth) depth := by
  match a with
  | .closed body line =>
    exact (body.walk_outline (Nat.succ_pos depth)).append (.cons (line.2.step depth) .nil)
  | .reopened body line arms =>
    exact (body.walk_outline (Nat.succ_pos depth)).append
      (.cons (line.2.step depth) (arms.walk_outline hd))

end

/-- Both estimates follow the outline of a program. -/
theorem walk_outline (p : Program language) : Walk language 0 p.outline 0 := by
  induction p with
  | done => exact .nil
  | neutral line rest ih => exact .cons (line.2.step 0) ih
  | function head body last rest ih =>
    exact .cons head.2.step ((body.walk_outline Nat.one_pos).append (.cons (last.2.step 0) ih))

theorem Walk.scanl_observe {depth' : Nat} {ms : List Mark} (h : Walk language depth ms depth') :
    (ms.map (·.line)).scanl (fun n line => (n.observe line).2) (atDepth language.keywords depth) =
      (depth :: ms.map (·.depth)).map (atDepth language.keywords) := by
  induction h with
  | nil => rfl
  | cons hs _ ih => rw [List.map_cons, List.scanl_cons, hs.observe, ih]; rfl

theorem Walk.scanl_lineDepth {depth' : Nat} {ms : List Mark} (h : Walk language depth ms depth') :
    (ms.map (·.line)).scanl lineDepth depth = depth :: ms.map (·.depth) := by
  induction h with
  | nil => rfl
  | cons hs _ ih => rw [List.map_cons, List.scanl_cons, hs.scan, ih]; rfl

theorem Walk.observeAll {depth' : Nat} {ms : List Mark} (h : Walk language depth ms depth') :
    ((atDepth language.keywords depth).observeAll (ms.map (·.line))).2 =
        atDepth language.keywords depth' ∧
      ((atDepth language.keywords depth).observeAll (ms.map (·.line))).1.map
        (· == .functionOpened) = ms.map (·.isHead) := by
  induction h with
  | nil => exact ⟨rfl, rfl⟩
  | cons hs _ ih =>
    simp only [List.map_cons, Nesting.observeAll, hs.observe]
    refine ⟨ih.1, ?_⟩
    rw [List.cons.injEq]
    exact ⟨by rw [Bool.eq_iff_iff, beq_iff_eq, hs.event], ih.2⟩

/-- A scan reads each line at the depth that the syntax says. -/
theorem Walk.scanFrom {depth' : Nat} {ms : List Mark} (h : Walk language depth ms depth')
    {numbered : List (Nat × List Char)} (hn : numbered.map Prod.snd = ms.map (·.line)) :
    Declaration.scanFrom depth numbered =
      (numbered.zip (depth :: ms.map (·.depth))).flatMap fun l =>
        Declaration.scanFrom l.2 [l.1] := by
  induction h generalizing numbered with
  | nil =>
    obtain rfl := List.map_eq_nil_iff.1 hn
    rfl
  | @cons depth _ m ms hs _ ih =>
    obtain ⟨l, rest, rfl, hl, hrest⟩ := List.map_eq_cons_iff.1 hn
    rw [scanFrom_cons, hl, hs.scan, ih hrest]
    rfl

/-! ### Functions -/

mutual

theorem Block.countP_isHead (b : Block language) (depth : Nat) :
    (b.outline depth).countP (·.isHead) = 0 := by
  match b with
  | .done => rfl
  | .neutral line rest => simpa [Block.outline] using rest.countP_isHead depth
  | .nested line arms rest =>
    simp [Block.outline, arms.countP_isHead depth, rest.countP_isHead depth]

theorem Arms.countP_isHead (a : Arms language) (depth : Nat) :
    (a.outline depth).countP (·.isHead) = 0 := by
  match a with
  | .closed body line => simp [Arms.outline, body.countP_isHead (depth + 1)]
  | .reopened body line arms =>
    simp [Arms.outline, body.countP_isHead (depth + 1), arms.countP_isHead depth]

end

theorem countP_isHead (p : Program language) : p.outline.countP (·.isHead) = p.functions := by
  induction p with
  | done => rfl
  | neutral line rest ih => simpa [outline, functions] using ih
  | function head body last rest ih =>
    simp [outline, functions, ih, body.countP_isHead 1]

/-- The lines that are seen to open a function are the heads of functions. -/
theorem openingLines_eq (d : Document) {events : List LineEvent} {ms : List Mark}
    (h : events.map (· == .functionOpened) = ms.map (·.isHead)) :
    Rule.openingLines d events =
      ((d.lines.zip ms).filter (·.2.isHead)).map (·.1.number) := by
  rw [Rule.openingLines]
  -- events and marks are equally many, but the document may have more or fewer lines
  generalize d.lines = ls
  induction ls generalizing events ms with
  | nil => rfl
  | cons l ls ih =>
    cases events with
    | nil =>
      obtain rfl := List.map_eq_nil_iff.1 h.symm
      rfl
    | cons e events =>
      obtain ⟨m, ms, rfl, hm, hms⟩ := List.map_eq_cons_iff.1 h.symm
      simp only [List.zip_cons_cons, List.filter_cons, hm]
      split_ifs
      · rw [List.map_cons, List.map_cons, ih hms.symm]
      · exact ih hms.symm

/-- **Both estimates agree with the syntax.**  On every well-nested program of every language, the
depth of the estimate of nesting and the count of braces are the depth of the syntax, behind every
line; a scan reads each line at that depth.  At the end the estimate is outside functions again.
The lines that it takes for the start of a function, and that are counted, are the heads of the
functions of the program. -/
theorem depths_agree (p : Program language) :
    (p.lines.scanl (fun n line => (n.observe line).2) (Nesting.start language)).map
        (·.depth) = 0 :: p.depths ∧
      p.lines.scanl lineDepth 0 = 0 :: p.depths ∧
      (∀ numbered : List (Nat × List Char), numbered.map Prod.snd = p.lines →
        scan numbered =
          (numbered.zip (0 :: p.depths)).flatMap fun l => Declaration.scanFrom l.2 [l.1]) ∧
      ((Nesting.start language).observeAll p.lines).2.depth = 0 ∧
      ((Nesting.start language).observeAll p.lines).2.inside = false ∧
      ((Nesting.start language).observeAll p.lines).1.map (· == .functionOpened) =
        p.outline.map (·.isHead) ∧
      ∀ d : Document, d.lines.map (·.text) = p.lines →
        Rule.openingLines d ((Nesting.start language).observeAll p.lines).1 =
            ((d.lines.zip p.outline).filter (·.2.isHead)).map (·.1.number) ∧
          (Rule.openingLines d ((Nesting.start language).observeAll p.lines).1).length =
            p.functions := by
  have h := p.walk_outline
  obtain ⟨hstate, hevents⟩ : ((Nesting.start language).observeAll p.lines).2 = .start language ∧
      ((Nesting.start language).observeAll p.lines).1.map (· == .functionOpened) =
        p.outline.map (·.isHead) := h.observeAll
  refine ⟨?_, h.scanl_lineDepth, fun numbered hn => h.scanFrom hn, by rw [hstate]; rfl,
    by rw [hstate]; rfl, hevents, fun d hd => ?_⟩
  · have := congrArg (List.map (·.depth)) h.scanl_observe
    rw [List.map_map] at this
    exact this.trans (List.map_id _)
  · have ho := openingLines_eq d hevents
    refine ⟨ho, ?_⟩
    -- no head is lost in pairs with the lines of the document
    have hlen : p.outline.length ≤ d.lines.length := by
      have := congrArg List.length hd
      rw [lines, List.length_map, List.length_map] at this
      exact this.ge
    calc (Rule.openingLines d ((Nesting.start language).observeAll p.lines).1).length
        = (d.lines.zip p.outline).countP (·.2.isHead) := by
          rw [ho, List.length_map, List.countP_eq_length_filter]
      _ = ((d.lines.zip p.outline).map Prod.snd).countP (·.isHead) := List.countP_map.symm
      _ = p.functions := by rw [List.map_snd_zip hlen, p.countP_isHead]

/-- A function with a block that is reopened, behind a directive and a comment with a brace. -/
def sample : Program .c :=
  .neutral ⟨"#include <a.h>".toList, by decide⟩ <|
  .neutral ⟨"// \x7b".toList, by decide⟩ <|
  .function ⟨"int f(int a) \x7b".toList, by decide⟩
    (.nested ⟨"  if (a) \x7b".toList, by decide⟩
      (.reopened (.neutral ⟨"    double d;".toList, by decide⟩ .done)
        ⟨"  \x7d else \x7b".toList, by decide⟩
        (.closed .done ⟨"  \x7d".toList, by decide⟩))
      .done)
    ⟨"\x7d".toList, by decide⟩
    .done

theorem depths_agree_sample :
    let d := Document.ofBytes ⟨"a.c"⟩ (Utf8.encode (['\n'].intercalate sample.lines))
    sample.depths = [0, 0, 1, 2, 2, 2, 1, 0] ∧ d.lines.map (·.text) = sample.lines ∧
      Rule.openingLines d ((Nesting.start .c).observeAll sample.lines).1 = [3] ∧
      d.declarations.map (fun found => (found.name, found.topLevel)) =
        [(['f'], true), (['d'], false)] := by
  intro d
  have hd : d.lines.map (·.text) = sample.lines := by decide +kernel
  have hn : (d.lines.map fun l => (l.number, l.text)).map Prod.snd = sample.lines := by
    rw [List.map_map]
    exact hd
  refine ⟨by decide, hd, ?_, ?_⟩
  · rw [((depths_agree sample).2.2.2.2.2.2 d hd).1]
    decide +kernel
  · rw [Document.declarations, (depths_agree sample).2.2.1 _ hn]
    decide +kernel

end Program

end StyleAudit
