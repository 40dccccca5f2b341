import Mathlib.Computability.Language
import Mathlib.Data.List.TakeWhile
import StyleAudit.Declaration.Pattern
import StyleAudit.Proofs.Text.Blank

/-!
# Languages of texts

Patterns of text are languages: `Language.ofClass p` holds the texts of one character of a class,
`Language.literal w` the text `w` alone, and products, sums and stars of languages do the rest.
Runs of a class are the star of its characters; a name is a character that may start one and a run
behind it.

Where runs of different classes follow each other, a text can be cut between them in one way only
(`Text.append_inj_of_run`).  So the run of a class that ends at the first of some characters, blanks
apart, is determined by the text (`Text.RunBefore.unique`).
-/

namespace Language

open scoped Computability

variable {α : Type} {p q : α → Bool} {t w : List α} {c : α}

/-- One item of a class. -/
def ofClass (p : α → Bool) : Language α := {t | ∃ c, p c = true ∧ t = [c]}

/-- One text. -/
def literal (w : List α) : Language α := {t | t = w}

/-- The texts of a list. -/
def oneOf (ws : List (List α)) : Language α := {t | t ∈ ws}

theorem singleton_mem_ofClass : [c] ∈ ofClass p ↔ p c = true :=
  ⟨fun ⟨_, h, he⟩ => List.singleton_inj.1 he ▸ h, fun h => ⟨c, h, rfl⟩⟩

theorem mem_oneOf {ws : List (List α)} : t ∈ oneOf ws ↔ t ∈ ws := Iff.rfl

/-- Runs of a class. -/
theorem mem_kstar_ofClass : t ∈ (ofClass p)∗ ↔ ∀ c ∈ t, p c = true := by
  rw [mem_kstar]
  constructor
  · rintro ⟨parts, rfl, h⟩ c hc
    obtain ⟨part, hpart, hc⟩ := List.mem_flatten.1 hc
    obtain ⟨c', hc', rfl⟩ := h part hpart
    rwa [List.mem_singleton.1 hc]
  · intro h
    refine ⟨t.map fun c => [c], (List.flatMap_singleton' t).symm, fun part hpart => ?_⟩
    obtain ⟨c, hc, rfl⟩ := List.mem_map.1 hpart
    exact singleton_mem_ofClass.2 (h c hc)

theorem mem_ofClass_mul_kstar :
    t ∈ ofClass p * (ofClass q)∗ ↔ ∃ c u, t = c :: u ∧ p c = true ∧ ∀ c ∈ u, q c = true := by
  rw [mem_mul]
  constructor
  · rintro ⟨_, ⟨c, hc, rfl⟩, u, hu, rfl⟩
    exact ⟨c, u, rfl, hc, mem_kstar_ofClass.1 hu⟩
  · rintro ⟨c, u, rfl, hc, hu⟩
    exact ⟨[c], singleton_mem_ofClass.2 hc, u, mem_kstar_ofClass.2 hu, rfl⟩

/-- Runs of a class with one item at least. -/
theorem mem_ofClass_mul_kstar_self :
    t ∈ ofClass p * (ofClass p)∗ ↔ t ≠ [] ∧ ∀ c ∈ t, p c = true := by
  rw [mem_ofClass_mul_kstar]
  constructor
  · rintro ⟨c, u, rfl, hc, hu⟩
    exact ⟨List.cons_ne_nil _ _, List.forall_mem_cons.2 ⟨hc, hu⟩⟩
  · rintro ⟨hne, h⟩
    obtain ⟨c, u, rfl⟩ := List.exists_cons_of_ne_nil hne
    exact ⟨c, u, rfl, List.forall_mem_cons.1 h⟩

theorem mem_one_add {l : Language α} : t ∈ 1 + l ↔ t = [] ∨ t ∈ l := by
  rw [mem_add, mem_one]

theorem append_mem_kstar {l : Language α} (ht : t ∈ l) (hw : w ∈ l∗) : t ++ w ∈ l∗ := by
  rw [← one_add_self_mul_kstar_eq_kstar]
  exact .inr (append_mem_mul ht hw)

/-- The first item of a text behind which `c` follows is `c` itself, or one of the text. -/
theorem exists_append_cons_iff {l : Language α} {d : α} {u : List α} :
    (∃ s ∈ l, d :: t = s ++ c :: u) ↔
      ([] ∈ l ∧ d = c ∧ t = u) ∨ ∃ s, d :: s ∈ l ∧ t = s ++ c :: u := by
  constructor
  · rintro ⟨s, hs, h⟩
    cases s with
    | nil =>
      cases h
      exact .inl ⟨hs, rfl, rfl⟩
    | cons d' s =>
      cases h
      exact .inr ⟨s, hs, rfl⟩
  · rintro (⟨h, rfl, rfl⟩ | ⟨s, hs, rfl⟩)
    · exact ⟨[], h, rfl⟩
    · exact ⟨d :: s, hs, rfl⟩

end Language

namespace StyleAudit.Text

open scoped Computability

/-- Blanks, perhaps none. -/
def blanks := (Language.ofClass isBlank)∗

/-- Blanks, and at least one. -/
def gap := Language.ofClass isBlank * (Language.ofClass isBlank)∗

/-- A character that may start a name, and a run of a class. -/
def identifier (p : Char → Bool) := Language.ofClass isNameStart * (Language.ofClass p)∗

theorem mem_blanks {t : List Char} : t ∈ blanks ↔ ∀ c ∈ t, isBlank c = true :=
  Language.mem_kstar_ofClass

theorem mem_gap {t : List Char} : t ∈ gap ↔ t ≠ [] ∧ ∀ c ∈ t, isBlank c = true :=
  Language.mem_ofClass_mul_kstar_self

theorem mem_identifier {p : Char → Bool} {t : List Char} :
    t ∈ identifier p ↔ ∃ c u, t = c :: u ∧ isNameStart c = true ∧ ∀ c ∈ u, p c = true :=
  Language.mem_ofClass_mul_kstar

theorem trimStart_append {front : List Char} (h : ∀ c ∈ front, isBlank c) (t : List Char) :
    trimStart (front ++ t) = trimStart t :=
  List.dropWhile_append_of_pos h

theorem trimStart_cons_of_not {c : Char} (h : isBlank c = false) (t : List Char) :
    trimStart (c :: t) = c :: t :=
  List.dropWhile_cons_of_neg (by simp [h])

/-! ### Cutting between runs -/

section Cut

variable {p : Char → Bool} {run rest : List Char} {b : Char}

/-- A run ends where something else starts. -/
theorem takeWhile_run (hrun : ∀ c ∈ run, p c) (hb : p b = false) (t : List Char) :
    (run ++ b :: t).takeWhile p = run := by
  rw [List.takeWhile_append_of_pos hrun, List.takeWhile_cons_of_neg (by simp [hb]),
    List.append_nil]

theorem dropWhile_run (hrun : ∀ c ∈ run, p c) (hb : p b = false) (t : List Char) :
    (run ++ b :: t).dropWhile p = b :: t := by
  rw [List.dropWhile_append_of_pos hrun, List.dropWhile_cons_of_neg (by simp [hb])]

/-- A run ends where no character of its class follows. -/
theorem takeWhile_append_of_head (hrun : ∀ c ∈ run, p c = true)
    (hrest : ∀ c ∈ rest.head?, p c = false) : (run ++ rest).takeWhile p = run := by
  cases rest with
  | nil => rw [List.append_nil, List.takeWhile_eq_self_iff.2 hrun]
  | cons c rest => exact takeWhile_run hrun (hrest c rfl) rest

theorem dropWhile_append_of_head (hrun : ∀ c ∈ run, p c = true)
    (hrest : ∀ c ∈ rest.head?, p c = false) : (run ++ rest).dropWhile p = rest := by
  cases rest with
  | nil => rw [List.append_nil, List.dropWhile_eq_nil_iff.2 hrun]
  | cons c rest => exact dropWhile_run hrun (hrest c rfl) rest

/-- A text that has the character `c` is cut at the first one. -/
theorem exists_dropWhile_ne {c : Char} {t : List Char} (h : c ∈ t) :
    ∃ rest, t.dropWhile (· != c) = c :: rest ∧ t = t.takeWhile (· != c) ++ c :: rest := by
  have hne : t.dropWhile (· != c) ≠ [] := fun hnil => by
    simpa using List.dropWhile_eq_nil_iff.1 hnil c h
  obtain ⟨d, rest, hd⟩ := List.exists_cons_of_ne_nil hne
  have hdc : d = c := by simpa using head?_dropWhile_not (· != c) t d (hd ▸ rfl)
  subst hdc
  exact ⟨rest, hd, by rw [← hd, List.takeWhile_append_dropWhile]⟩

/-- A run at the front is cut off in one way. -/
theorem append_inj_of_run_front {run' rest' : List Char} (h : run ++ rest = run' ++ rest')
    (hrun : ∀ c ∈ run, p c = true) (hrest : ∀ c ∈ rest.head?, p c = false)
    (hrun' : ∀ c ∈ run', p c = true) (hrest' : ∀ c ∈ rest'.head?, p c = false) :
    run = run' ∧ rest = rest' := by
  refine List.append_inj h (congrArg List.length ?_)
  rw [← takeWhile_append_of_head hrun hrest, h, takeWhile_append_of_head hrun' hrest']

/-- A run at the end is cut off in one way. -/
theorem append_inj_of_run {front front' run' : List Char} (h : front ++ run = front' ++ run')
    (hfront : ∀ c ∈ front.getLast?, p c = false) (hrun : ∀ c ∈ run, p c = true)
    (hfront' : ∀ c ∈ front'.getLast?, p c = false) (hrun' : ∀ c ∈ run', p c = true) :
    front = front' ∧ run = run' := by
  have hrev : run.reverse ++ front.reverse = run'.reverse ++ front'.reverse := by
    rw [← List.reverse_append, h, List.reverse_append]
  obtain ⟨h₁, h₂⟩ := append_inj_of_run_front hrev (by simpa using hrun)
    (by simpa using hfront) (by simpa using hrun') (by simpa using hfront')
  exact ⟨List.reverse_inj.1 h₂, List.reverse_inj.1 h₁⟩

end Cut

/-- In the text, the run `run` of the class `p` stands before the first of the characters `stops`,
with nothing but blanks between, and behind `before`; it is as long as can be. -/
structure RunBefore (p : Char → Bool) (stops t before run : List Char) : Prop where
  /-- Where the run stands. -/
  stands : ∃ blanks stop behind, t = before ++ run ++ blanks ++ stop :: behind ∧
    (∀ c ∈ blanks, isBlank c = true) ∧ stop ∈ stops ∧ ∀ c ∈ before ++ run ++ blanks, c ∉ stops
  /-- There is something. -/
  ne_nil : run ≠ []
  /-- It is of the class. -/
  mem : ∀ c ∈ run, p c = true
  /-- It starts where it can. -/
  maximal : ∀ c ∈ before.getLast?, p c = false

/-- What stands before the first of some characters is determined by the text. -/
theorem eq_of_first_stop {stops front front' behind behind' : List Char} {stop stop' : Char}
    (h : front ++ stop :: behind = front' ++ stop' :: behind') (hs : stop ∈ stops)
    (hs' : stop' ∈ stops) (hf : ∀ c ∈ front, c ∉ stops) (hf' : ∀ c ∈ front', c ∉ stops) :
    front = front' :=
  (append_inj_of_run_front (p := fun c => !stops.contains c) h (by simpa using hf)
    (by simpa using hs) (by simpa using hf') (by simpa using hs')).1

/-- **The run before the first of some characters is determined by the text**, if it has no
blanks. -/
theorem RunBefore.unique {p : Char → Bool} {stops t before run before' run' : List Char}
    (hp : ∀ c, isBlank c = true → p c = false) (h : RunBefore p stops t before run)
    (h' : RunBefore p stops t before' run') : before = before' ∧ run = run' := by
  obtain ⟨blanks, stop, behind, rfl, hblanks, hstop, hfirst⟩ := h.stands
  obtain ⟨blanks', stop', behind', ht, hblanks', hstop', hfirst'⟩ := h'.stands
  have hfront := eq_of_first_stop ht hstop hstop' hfirst hfirst'
  -- the last character of a run is not blank, so that the blanks behind it are all there are
  have hlast {before run : List Char} (hne : run ≠ []) (hmem : ∀ c ∈ run, p c = true) :
      ∀ c ∈ (before ++ run).getLast?, isBlank c = false := by
    intro c hc
    rw [List.getLast?_append_of_ne_nil _ hne] at hc
    by_contra hb
    have := hp c (by simpa using hb)
    rw [hmem c (List.mem_of_getLast? hc)] at this
    cases this
  have hrun := (append_inj_of_run hfront (hlast h.ne_nil h.mem) hblanks
    (hlast h'.ne_nil h'.mem) hblanks').1
  exact append_inj_of_run hrun h.maximal h.mem h'.maximal h'.mem

end StyleAudit.Text
