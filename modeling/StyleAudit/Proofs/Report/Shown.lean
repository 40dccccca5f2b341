import StyleAudit.Proofs.Text.Numeral
import StyleAudit.Report.Markup

/-!
# What markup shows

Tags are not shown, so that a reader of a page sees the texts between them.  `Markup.shown` finds
these in written markup.  Markup that shows some texts shows them whatever is written behind it
(`Markup.Shows`); this holds of the cell of a table and passes from content to element, and so to
whole tables of counts (`Markup.countTable_shows`).  As texts are escaped, none of them can be taken
for a tag; of the way they are escaped, only what `Markup.Escapes` says is used.
-/

namespace StyleAudit

namespace Markup

/-- A text is shown if there is something of it.  It is kept in reverse. -/
def closeRun (run : List Char) : List (List Char) := if run.isEmpty then [] else [run.reverse]

/-- The texts between tags, behind a part of a text (kept in reverse) or in a tag. -/
def shownFrom : Option (List Char) → List Char → List (List Char)
  | none, [] => []
  | none, c :: t => shownFrom (if c = '>' then some [] else none) t
  | some run, [] => closeRun run
  | some run, c :: t =>
    if c = '<' then closeRun run ++ shownFrom none t else shownFrom (some (c :: run)) t

/-- The texts between tags, in order. -/
def shown (t : List Char) : List (List Char) := shownFrom (some []) t

/-! ### Tags and texts -/

/-- A tag is not shown. -/
theorem shown_tag {body : List Char} (h : '>' ∉ body) (t : List Char) :
    shown ('<' :: body ++ '>' :: t) = shown t := by
  have hskip : shownFrom none (body ++ '>' :: t) = shown t := by
    induction body with
    | nil => rfl
    | cons c body ih =>
      obtain ⟨hc, hbody⟩ := not_or.1 (mt List.mem_cons.2 h)
      rw [List.cons_append, shownFrom, if_neg (Ne.symm hc), ih hbody]
  exact hskip

theorem shownFrom_append {s : List Char} (h : '<' ∉ s) (run t : List Char) :
    shownFrom (some run) (s ++ t) = shownFrom (some (s.reverse ++ run)) t := by
  induction s generalizing run with
  | nil => rfl
  | cons c s ih =>
    obtain ⟨hc, hs⟩ := not_or.1 (mt List.mem_cons.2 h)
    rw [List.cons_append, shownFrom, if_neg (Ne.symm hc), ih hs, List.reverse_cons,
      List.append_assoc]
    rfl

/-- A text up to the next tag is shown as a whole. -/
theorem shown_text {s : List Char} (h : '<' ∉ s) (hne : s ≠ []) (t : List Char) :
    shown (s ++ '<' :: t) = s :: shown ('<' :: t) := by
  rw [shown, shownFrom_append h, shownFrom, if_pos rfl, List.append_nil, closeRun,
    List.isEmpty_reverse, List.reverse_reverse, if_neg (by simpa using hne)]
  rfl

/-! ### Escaped texts -/

/-- The characters that markup gives a meaning, with the names of their entities. -/
def entities : List (Char × String) := [('&', "amp"), ('<', "lt"), ('>', "gt"), ('"', "quot")]

/-- What is relied on of a writer of texts and attributes, character by character. -/
structure Escapes (write : Char → List Char) : Prop where
  /-- A character with a meaning is written as its entity. -/
  entity {c : Char} {name : String} : (c, name) ∈ entities → write c = '&' :: name.toList ++ [';']
  /-- Any other one is written as it stands. -/
  other {c : Char} : c ∉ entities.map Prod.fst → write c = [c]

theorem escapes_escapeChar : Escapes escapeChar where
  entity {c name} h := by
    simp only [entities, List.mem_cons, Prod.mk.injEq, List.not_mem_nil, or_false] at h
    obtain ⟨rfl, rfl⟩ | ⟨rfl, rfl⟩ | ⟨rfl, rfl⟩ | ⟨rfl, rfl⟩ := h <;> rfl
  other {c} h := by
    obtain ⟨hamp, hlt, hgt, hquot⟩ : c ≠ '&' ∧ c ≠ '<' ∧ c ≠ '>' ∧ c ≠ '"' := by
      simpa [entities] using h
    simp [escapeChar, hamp, hlt, hgt, hquot]

/-- No angle bracket is written for a character of a text. -/
theorem Escapes.notMem {write : Char → List Char} (h : Escapes write) {c : Char}
    (hc : c = '<' ∨ c = '>') (d : Char) : c ∉ write d := by
  by_cases hd : d ∈ entities.map Prod.fst
  · obtain ⟨⟨d, name⟩, hentity, rfl⟩ := List.mem_map.1 hd
    have hall : ∀ entity ∈ entities, c ∉ '&' :: entity.2.toList ++ [';'] := by
      rcases hc with rfl | rfl <;> decide
    rw [h.entity hentity]
    exact hall _ hentity
  · rw [h.other hd, List.mem_singleton]
    rintro rfl
    rcases hc with rfl | rfl <;> exact hd (by decide)

/-- No escaped text holds an angle bracket. -/
theorem notMem_escape {c : Char} (h : c = '<' ∨ c = '>') (s : String) : c ∉ escape s := by
  intro hmem
  obtain ⟨d, -, hd⟩ := List.mem_flatMap.1 hmem
  exact escapes_escapeChar.notMem h d hd

/-- A text that is shown as it is. -/
structure Label (s : String) : Prop where
  /-- Nothing is escaped. -/
  literal : ∀ c ∈ s.toList, escapeChar c = [c]
  /-- There is something to show. -/
  ne_nil : s.toList ≠ []

theorem Label.ofList {t : List Char} (h : (t.all fun c => escapeChar c = [c]) ∧ t ≠ []) :
    Label (String.ofList t) := by
  rw [← @String.toList_ofList t] at h
  exact ⟨by simpa using h.1, h.2⟩

theorem Label.escape_eq {s : String} (h : Label s) : escape s = s.toList := by
  rw [escape, List.flatMap_congr h.literal, List.flatMap_singleton']

theorem label_toString (n : Nat) : Label (toString n) where
  literal c hc := by
    have hne {d : Char} (hd : d.isDigit = false) : c ≠ d := by
      rintro rfl
      simp [Text.isDigit_of_mem_toString hc] at hd
    refine escapes_escapeChar.other ?_
    simpa [entities] using ⟨@hne '&' rfl, @hne '<' rfl, @hne '>' rfl, @hne '"' rfl⟩
  ne_nil := Text.toList_toString_ne_nil n

/-! ### Elements -/

/-- The name of a tag and those of its attributes do not end it. -/
structure ProperTag (tag : String) (attributes : List (String × String)) : Prop where
  /-- The name of the tag. -/
  tag : '>' ∉ tag.toList
  /-- The names of the attributes. -/
  attributes : ∀ name ∈ attributes.map Prod.fst, '>' ∉ name.toList

variable {tag : String} {attributes : List (String × String)} {texts : List (List Char)}

/-- What stands between the brackets of an opening tag does not end it. -/
theorem ProperTag.notMem_opening (h : ProperTag tag attributes) :
    '>' ∉ tag.toList ++ writeAttributes attributes := by
  have hattributes : '>' ∉ writeAttributes attributes := by
    intro hmem
    obtain ⟨a, ha, hmem⟩ := List.mem_flatMap.1 hmem
    have hname := h.attributes a.1 (List.mem_map_of_mem ha)
    have hvalue := notMem_escape (.inr rfl) a.2
    simp [hname, hvalue] at hmem
  exact List.not_mem_append h.tag hattributes

theorem ProperTag.shown_opening (h : ProperTag tag attributes) (t : List Char) :
    shown (opening tag attributes ++ t) = shown t := by
  have := shown_tag h.notMem_opening t
  simpa [opening] using this

theorem ProperTag.shown_closing (h : ProperTag tag attributes) (t : List Char) :
    shown (closing tag ++ t) = shown t := by
  have hbody : '>' ∉ '/' :: tag.toList := by simp [h.tag]
  have := shown_tag hbody t
  simpa [closing] using this

/-- A piece of markup shows some texts, whatever follows it. -/
def Shows (m : Markup) (texts : List (List Char)) : Prop :=
  ∀ t, shown (write m ++ t) = texts ++ shown t

/-- Pieces of markup show some texts, whatever follows them. -/
def ShowAll (ms : List Markup) (texts : List (List Char)) : Prop :=
  ∀ t, shown (writeAll ms ++ t) = texts ++ shown t

theorem showAll_nil : ShowAll [] [] := fun _ => rfl

theorem Shows.cons {m : Markup} {ms : List Markup} {more : List (List Char)} (h : Shows m texts)
    (hs : ShowAll ms more) : ShowAll (m :: ms) (texts ++ more) := by
  intro t
  rw [writeAll, List.append_assoc, h, hs, List.append_assoc]

theorem showAll_map {α : Type} {f : α → Markup} {g : α → List (List Char)} {items : List α}
    (h : ∀ a ∈ items, Shows (f a) (g a)) : ShowAll (items.map f) (items.flatMap g) := by
  induction items with
  | nil => exact showAll_nil
  | cons a items ih =>
    obtain ⟨ha, hitems⟩ := List.forall_mem_cons.1 h
    exact ha.cons (ih hitems)

/-- An element shows what its content shows. -/
theorem ProperTag.shows (htag : ProperTag tag attributes) {content : List Markup}
    (h : ShowAll content texts) : Shows (.element tag attributes content) texts := by
  intro t
  rw [write, List.append_assoc, List.append_assoc, htag.shown_opening, h, htag.shown_closing]

/-- An element with a text in it shows the text. -/
theorem ProperTag.shows_text (htag : ProperTag tag attributes) {s : String} (h : Label s) :
    Shows (.element tag attributes [.text s]) [s.toList] := by
  intro t
  have hlt := notMem_escape (.inl rfl) s
  rw [h.escape_eq] at hlt
  rw [write, writeAll, write, writeAll, h.escape_eq, List.append_nil, List.append_assoc,
    List.append_assoc, htag.shown_opening]
  -- the text ends where the closing tag starts
  rw [closing, List.cons_append, List.cons_append, shown_text hlt h.ne_nil]
  exact congrArg _ (htag.shown_closing t)

/-! ### Tables of counts -/

theorem properTag_plain (h : '>' ∉ tag.toList) : ProperTag tag [] := ⟨h, by simp⟩

theorem properTag_styled (h : '>' ∉ tag.toList) (style : String) :
    ProperTag tag [("style", style)] :=
  ⟨h, (by decide : ∀ name ∈ ["style"], '>' ∉ name.toList)⟩

theorem properTag_cell (cls style : String) :
    ProperTag "td" [("class", cls), ("style", style)] :=
  ⟨by decide, (by decide : ∀ name ∈ ["class", "style"], '>' ∉ name.toList)⟩

theorem countRow_shows {label : String} (h : Label label) (n : Nat) :
    Shows (countRow label n) [label.toList, (toString n).toList] := by
  have hlabel := (properTag_cell "metric" labelStyle).shows_text h
  have hcount := (properTag_cell (if 0 < n then "count flagged" else "count") countStyle).shows_text
    (label_toString n)
  exact (properTag_plain (by decide)).shows (hlabel.cons (hcount.cons showAll_nil))

/-- A table of counts shows its headings, and then each label with its count. -/
theorem countTable_shows {first second : String} {rows : List (String × Nat)} (hfirst : Label first)
    (hsecond : Label second) (hrows : ∀ row ∈ rows, Label row.1) :
    Shows (countTable first second rows)
      ([first.toList, second.toList] ++
        rows.flatMap fun row => [row.1.toList, (toString row.2).toList]) := by
  have hth : ∀ {s : String}, Label s →
      Shows (.element "th" [("style", headingStyle)] [.text s]) [s.toList] :=
    fun h => (properTag_styled (by decide) headingStyle).shows_text h
  have hrow : Shows (plain "tr"
      [.element "th" [("style", headingStyle)] [.text first],
        .element "th" [("style", headingStyle)] [.text second]])
      [first.toList, second.toList] :=
    (properTag_plain (by decide)).shows ((hth hfirst).cons ((hth hsecond).cons showAll_nil))
  have hhead := (properTag_plain (by decide : '>' ∉ "thead".toList)).shows (hrow.cons showAll_nil)
  have hbody : Shows (plain "tbody" (rows.map fun r => countRow r.1 r.2))
      (rows.flatMap fun row => [row.1.toList, (toString row.2).toList]) :=
    (properTag_plain (by decide)).shows
      (showAll_map fun row hrow => countRow_shows (hrows row hrow) row.2)
  have hbody' := hbody.cons showAll_nil
  rw [List.append_nil] at hbody'
  exact (properTag_styled (by decide) tableStyle).shows (hhead.cons hbody')

/-- Labels and numbers that are shown one after the other; a text that is not a number is no
count. -/
def countsOf : List (List Char) → List (List Char × Nat)
  | label :: numeral :: rest =>
    ((Text.natOfDigits? 10 numeral).map (label, ·)).toList ++ countsOf rest
  | _ => []

/-- The labels and counts that markup shows. -/
def shownCounts (m : Markup) : List (List Char × Nat) := countsOf (shown (write m))

/-- **A table of counts shows its rows.** -/
theorem shownCounts_countTable {first second : String} {rows : List (String × Nat)}
    (hfirst : Label first) (hsecond : Label second)
    (hheading : Text.natOfDigits? 10 second.toList = none) (hrows : ∀ row ∈ rows, Label row.1) :
    shownCounts (countTable first second rows) = rows.map fun row => (row.1.toList, row.2) := by
  have hrow (rows : List (String × Nat)) :
      countsOf (rows.flatMap fun row => [row.1.toList, (toString row.2).toList]) =
        rows.map fun row => (row.1.toList, row.2) := by
    induction rows with
    | nil => rfl
    | cons row rows ih =>
      rw [List.flatMap_cons, List.cons_append, List.cons_append, countsOf,
        Text.natOfDigits?_toString, List.map_cons, ← ih]
      rfl
  have hshown := countTable_shows hfirst hsecond hrows []
  rw [List.append_nil] at hshown
  rw [shownCounts, hshown, ← hrow rows]
  simp [countsOf, hheading, shown, shownFrom, closeRun]

end Markup

end StyleAudit
