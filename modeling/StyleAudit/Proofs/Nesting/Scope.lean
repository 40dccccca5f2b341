import Mathlib.Data.List.Find
import StyleAudit.Proofs.Nesting.WellNested

/-!
# Scopes

A rule that measures lines needs more than the depth behind each line: the depth before it, and
whether it stands in a function at all.  `Scope` is a syntax of well-nested sources in which every
line has such a place.  It is wider than `Program`: the estimate of nesting does not know
directives, so that a line with a brace may be one here.  Lines that are skipped are skipped
wherever they stand, so that lines with braces are those that are not.

* `Scope.places` gives the place of each line, as the syntax says;
* at its place, a line has the event that `Place.event` says, and leads to the depth behind it
  (`Scope.observe_edge`, `Scope.observe_neutral`);
* so the estimate of nesting follows the places of every scope (`Scope.observeAll_places`).
-/

namespace StyleAudit

/-! ### Places -/

/-- How a line stands to the functions of a source. -/
inductive Role where
  /-- Outside functions. -/
  | outside
  /-- The line that opens a function. -/
  | head
  /-- Behind the line that opens a function, up to the line that closes it. -/
  | inside
  deriving DecidableEq

/-- A line and its place in the nesting of a source. -/
structure Place where
  /-- The line. -/
  line : List Char
  /-- The number of functions and blocks that are open before it. -/
  before : Nat
  /-- The number of functions and blocks that are open behind it. -/
  behind : Nat
  /-- How it stands to the functions of the source. -/
  role : Role

/-- The first control keyword of the language that stands in a line. -/
def Language.keywordIn? (language : Language) (line : List Char) : Option String :=
  language.keywords.find? fun k => k.toList <:+: line

theorem Language.keywordIn?_isSome {language : Language} {line : List Char} :
    (language.keywordIn? line).isSome = true ↔ Program.HasKeyword language line := by
  simp [keywordIn?, Program.HasKeyword]

/-- Trimming a line hides no keyword. -/
theorem Nesting.keywordIn_trim (language : Language) (depth : Nat) (line : List Char) :
    (atDepth language.keywords depth).keywordIn (Text.trim line) = language.keywordIn? line := by
  refine List.find?_congr fun k hk => ?_
  rw [Text.occursIn_trim (Program.not_isBlank_of_mem_keywords hk), Bool.eq_iff_iff,
    Text.occursIn_iff, decide_eq_true_eq]

/-- What the estimate of nesting says about a line at its place. -/
def Place.event (language : Language) (p : Place) : LineEvent :=
  if Text.isBlankOrComment (Text.trim p.line) then .skipped
  else match p.role with
    | .outside => .outside
    | .head => .functionOpened
    | .inside => match language.keywordIn? p.line with
      | some k => .keyword k p.before
      | none => .body p.behind

/-- Lines are observed one behind the other. -/
theorem Nesting.observeAll_append (n : Nesting) (front back : List (List Char)) :
    n.observeAll (front ++ back) =
      ((n.observeAll front).1 ++ ((n.observeAll front).2.observeAll back).1,
        ((n.observeAll front).2.observeAll back).2) := by
  induction front generalizing n with
  | nil => rfl
  | cons line front ih => simp only [List.cons_append, observeAll, ih]

/-! ### Syntax -/

/-- What a scope belongs to. -/
inductive ScopeKind where
  /-- A whole source. -/
  | source
  /-- The body of a function. -/
  | function
  /-- A block behind a control keyword. -/
  | block
  deriving DecidableEq

/-- How the lines of a scope stand to functions, the heads of functions apart. -/
def ScopeKind.role : ScopeKind → Role
  | .source => .outside
  | .function => .inside
  | .block => .inside

open Program (Braces HasKeyword Neutral)

/-- A line that is not skipped and has the braces that are asked for. -/
def Edge (opens closes : Bool) (line : List Char) : Prop :=
  Braces opens closes line ∧ Text.isBlankOrComment (Text.trim line) = false

instance (opens closes : Bool) (line : List Char) : Decidable (Edge opens closes line) :=
  inferInstanceAs (Decidable (_ ∧ _))

/-- The lines of a scope.  Functions stand in the source itself, and blocks inside functions; a
block may be closed and reopened on one line, which is a line of the block then. -/
inductive Scope (language : Language) : ScopeKind → Type where
  /-- Nothing more. -/
  | done {kind : ScopeKind} : Scope language kind
  /-- A line without braces, or one that is skipped. -/
  | neutral {kind : ScopeKind} (line : { line // Neutral line }) (rest : Scope language kind) :
    Scope language kind
  /-- A function. -/
  | function (head : { line // Edge true false line ∧ '(' ∈ line })
    (body : Scope language .function) (last : { line // Edge false true line })
    (rest : Scope language .source) : Scope language .source
  /-- A block. -/
  | block {kind : ScopeKind} (hkind : kind ≠ .source)
    (head : { line // Edge true false line ∧ HasKeyword language line })
    (body : Scope language .block) (last : { line // Edge false true line })
    (rest : Scope language kind) : Scope language kind
  /-- A line that closes the block and reopens it. -/
  | reopened (line : { line // Edge true true line ∧ HasKeyword language line })
    (rest : Scope language .block) : Scope language .block

namespace Scope

variable {language : Language} {kind : ScopeKind}

/-- The lines of a scope inside `depth` functions and blocks, at their places. -/
def places (depth : Nat) : {kind : ScopeKind} → Scope language kind → List Place
  | _, .done => []
  | kind, .neutral line rest => ⟨line, depth, depth, kind.role⟩ :: rest.places depth
  | _, .function head body last rest =>
    ⟨head, depth, depth + 1, .head⟩ :: (body.places (depth + 1) ++
      ⟨last, depth + 1, depth, .inside⟩ :: rest.places depth)
  | _, .block _ head body last rest =>
    ⟨head, depth, depth + 1, .inside⟩ :: (body.places (depth + 1) ++
      ⟨last, depth + 1, depth, .inside⟩ :: rest.places depth)
  | _, .reopened line rest => ⟨line, depth, depth, .inside⟩ :: rest.places depth

/-- The texts of the lines of a source. -/
def lines (source : Scope language .source) : List (List Char) :=
  (source.places 0).map (·.line)

/-- A scope nests at most as deep as it has lines. -/
theorem le_of_mem_places {depth : Nat} (s : Scope language kind) {p : Place}
    (hp : p ∈ s.places depth) :
    p.before ≤ depth + (s.places depth).length ∧ p.behind ≤ depth + (s.places depth).length := by
  induction s generalizing depth with
  | done => cases hp
  | neutral line rest ih =>
    simp only [places, List.mem_cons, List.length_cons] at hp ⊢
    rcases hp with rfl | hp
    · dsimp only; omega
    · have := ih hp
      omega
  | function head body last rest ihb ihr =>
    simp only [places, List.mem_cons, List.mem_append, List.length_cons, List.length_append]
      at hp ⊢
    rcases hp with rfl | hp | rfl | hp
    · dsimp only; omega
    · have := ihb hp
      omega
    · dsimp only; omega
    · have := ihr hp
      omega
  | block hkind head body last rest ihb ihr =>
    simp only [places, List.mem_cons, List.mem_append, List.length_cons, List.length_append]
      at hp ⊢
    rcases hp with rfl | hp | rfl | hp
    · dsimp only; omega
    · have := ihb hp
      omega
    · dsimp only; omega
    · have := ihr hp
      omega
  | reopened line rest ih =>
    simp only [places, List.mem_cons, List.length_cons] at hp ⊢
    rcases hp with rfl | hp
    · dsimp only; omega
    · have := ih hp
      omega

/-- Only lines that open a function, or have a keyword, open a level. -/
theorem exists_edge_of_mem_places {depth : Nat} (s : Scope language kind) {p : Place}
    (hp : p ∈ s.places depth) (hc : Text.isBlankOrComment (Text.trim p.line) = false) :
    ∃ opens closes, Edge opens closes p.line ∧
      (opens = true → p.role = .head ∨ HasKeyword language p.line) := by
  induction s generalizing depth with
  | done => cases hp
  | neutral line rest ih =>
    rcases List.mem_cons.1 hp with rfl | hp
    · have hs : ¬ Text.isBlankOrComment (Text.trim line.1) = true := by simpa using hc
      exact ⟨false, false, ⟨line.2.resolve_right hs, hc⟩, by simp⟩
    · exact ih hp
  | function head body last rest ihb ihr =>
    simp only [places, List.mem_cons, List.mem_append] at hp
    rcases hp with rfl | hp | rfl | hp
    · exact ⟨true, false, head.2.1, fun _ => .inl rfl⟩
    · exact ihb hp
    · exact ⟨false, true, last.2, by simp⟩
    · exact ihr hp
  | block hkind head body last rest ihb ihr =>
    simp only [places, List.mem_cons, List.mem_append] at hp
    rcases hp with rfl | hp | rfl | hp
    · exact ⟨true, false, head.2.1, fun _ => .inr head.2.2⟩
    · exact ihb hp
    · exact ⟨false, true, last.2, by simp⟩
    · exact ihr hp
  | reopened line rest ih =>
    rcases List.mem_cons.1 hp with rfl | hp
    · exact ⟨true, true, line.2.1, fun _ => .inr line.2.2⟩
    · exact ih hp

/-! ### Steps -/

open Nesting

variable {line : List Char} {opens closes : Bool} {depth : Nat}

/-- A line inside a function that opens a level only behind a keyword. -/
theorem observe_edge (h : Edge opens closes line)
    (hk : opens = true → HasKeyword language line) (hd : 0 < depth) :
    (atDepth language.keywords depth).observe line =
      (Place.event language ⟨line, depth, depth + opens.toNat - closes.toNat, .inside⟩,
        atDepth language.keywords (depth + opens.toNat - closes.toNat)) := by
  obtain ⟨hb, hc⟩ := h
  rw [Nesting.observe, step_atDepth_pos language.keywords hd, hc, if_neg Bool.false_ne_true,
    hb.endsIn_trim, hb.contains_trim, keywordIn_trim]
  simp only [Place.event, hc, Bool.false_eq_true, if_false]
  cases hw : language.keywordIn? line with
  | some k => rfl
  | none =>
    -- without a keyword the line opens nothing
    have ho : opens = false := by
      rw [← Bool.not_eq_true]
      intro ho
      have := Language.keywordIn?_isSome.2 (hk ho)
      rw [hw] at this
      cases this
    subst ho
    rfl

theorem observe_head (h : Edge true false line) (hp : '(' ∈ line) :
    (atDepth language.keywords 0).observe line =
      (Place.event language ⟨line, 0, 1, .head⟩, atDepth language.keywords 1) := by
  obtain ⟨hb, hc⟩ := h
  have ho : opensFunction (Text.trim line) = true := by
    rw [opensFunction, hb.endsIn_trim, Bool.and_true, List.contains_iff_mem,
      Text.mem_trim_iff (by decide)]
    exact hp
  rw [Nesting.observe, step_atDepth_zero, hc, if_neg Bool.false_ne_true, ho, if_pos rfl,
    Place.event, hc, if_neg Bool.false_ne_true]

theorem observe_neutral (h : Neutral line) (hd : kind = .source ↔ depth = 0) :
    (atDepth language.keywords depth).observe line =
      (Place.event language ⟨line, depth, depth, kind.role⟩,
        atDepth language.keywords depth) := by
  -- a skipped line may hold any braces, so that it is set apart first
  by_cases hs : Text.isBlankOrComment (Text.trim line) = true
  · rw [Nesting.observe, step, if_pos hs, Place.event, if_pos hs]
  · have hc := Bool.eq_false_iff.2 hs
    have hb := h.resolve_right hs
    rcases Nat.eq_zero_or_pos depth with rfl | hpos
    · obtain rfl := hd.2 rfl
      have ho : opensFunction (Text.trim line) = false := by
        rw [opensFunction, hb.endsIn_trim, Bool.and_false]
      rw [Nesting.observe, step_atDepth_zero, hc, if_neg Bool.false_ne_true, ho,
        if_neg Bool.false_ne_true, Place.event, hc, if_neg Bool.false_ne_true]
      rfl
    · have hrole : kind.role = .inside := by
        cases kind with
        | source => exact absurd (hd.1 rfl) hpos.ne'
        | function => rfl
        | block => rfl
      rw [hrole]
      exact observe_edge ⟨hb, hc⟩ (by simp) hpos

theorem observe_block (h : Edge true false line) (hk : HasKeyword language line)
    (hd : 0 < depth) :
    (atDepth language.keywords depth).observe line =
      (Place.event language ⟨line, depth, depth + 1, .inside⟩,
        atDepth language.keywords (depth + 1)) :=
  observe_edge h (fun _ => hk) hd

theorem observe_reopened (h : Edge true true line) (hk : HasKeyword language line)
    (hd : 0 < depth) :
    (atDepth language.keywords depth).observe line =
      (Place.event language ⟨line, depth, depth, .inside⟩, atDepth language.keywords depth) :=
  observe_edge h (fun _ => hk) hd

theorem observe_last (h : Edge false true line) (depth : Nat) :
    (atDepth language.keywords (depth + 1)).observe line =
      (Place.event language ⟨line, depth + 1, depth, .inside⟩, atDepth language.keywords depth) :=
  observe_edge h (by simp) (Nat.succ_pos depth)

/-! ### Walks -/

/-- **The estimate of nesting follows the places of every scope**, line by line, and leaves it at
the depth at which it was entered. -/
theorem observeAll_places (s : Scope language kind) {depth : Nat}
    (hd : kind = .source ↔ depth = 0) :
    (atDepth language.keywords depth).observeAll ((s.places depth).map (·.line)) =
      ((s.places depth).map (Place.event language), atDepth language.keywords depth) := by
  induction s generalizing depth with
  | done => rfl
  | neutral line rest ih =>
    simp only [places, List.map_cons, Nesting.observeAll, observe_neutral line.2 hd, ih hd]
  | function head body last rest ihb ihr =>
    obtain rfl := hd.1 rfl
    have hbody := @ihb 1 (by simp)
    simp only [places, List.map_cons, List.map_append, Nesting.observeAll,
      Nesting.observeAll_append, observe_head head.2.1 head.2.2, hbody, observe_last last.2, ihr hd]
  | block hkind head body last rest ihb ihr =>
    have hpos : 0 < depth := Nat.pos_of_ne_zero fun h => hkind (hd.2 h)
    have hbody := @ihb (depth + 1) (by simp)
    simp only [places, List.map_cons, List.map_append, Nesting.observeAll,
      Nesting.observeAll_append, observe_block head.2.1 head.2.2 hpos, hbody,
      observe_last last.2, ihr hd]
  | reopened line rest ih =>
    have hpos : 0 < depth := Nat.pos_of_ne_zero fun h => by simpa using hd.2 h
    simp only [places, List.map_cons, Nesting.observeAll,
      observe_reopened line.2.1 line.2.2 hpos, ih hd]

end Scope

end StyleAudit
