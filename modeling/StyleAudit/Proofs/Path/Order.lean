import Mathlib.Data.String.Basic
import StyleAudit.Path
import StyleAudit.Proofs.Sorting

/-!
# The order of paths

Texts compare by code points, which is their order as strings (`Path.compareChars_eq_lt_iff`).
Components compare by kind, and names among each other as texts; both levels are comparisons of
keys, so that the whole is a total order (`Path.Component.compare_eq`).  Paths stand in the
lexicographic order of their components (`Path.Precedes`, `Path.compare_eq_lt_iff`).  Paths that are
written differently may have the same components, and these are the ones that compare equal
(`Path.compare_eq_eq_iff`).
-/

namespace StyleAudit.Path

/-! ### Texts -/

theorem compareChars_eq (s t : List Char) :
    compareChars s t = Ord.compare (s.map Char.toNat) (t.map Char.toNat) := by
  induction s generalizing t with
  | nil => cases t <;> rfl
  | cons a s ih =>
    cases t with
    | nil => rfl
    | cons b t =>
      rw [compareChars, ih, List.map_cons, List.map_cons]
      change _ = List.compareLex _ _ _
      rw [List.compareLex_cons_cons]
      cases Ord.compare a.toNat b.toNat <;> rfl

instance : Std.TransCmp compareChars := by
  have h : compareChars = fun s t => Ord.compare (s.map Char.toNat) (t.map Char.toNat) := by
    funext s t
    exact compareChars_eq s t
  rw [h]
  exact transCmp_comap Ord.compare (List.map Char.toNat)

theorem compareChars_trans {s t u : List Char} (h : (compareChars s t).isLE)
    (h' : (compareChars t u).isLE) : (compareChars s u).isLE := Std.TransCmp.isLE_trans h h'

theorem compareChars_total (s t : List Char) :
    (compareChars s t).isLE || (compareChars t s).isLE := isLE_total compareChars s t

theorem eq_of_compareChars {s t : List Char} (h : compareChars s t = .eq) : s = t := by
  rw [compareChars_eq, Std.LawfulEqCmp.compare_eq_iff_eq] at h
  exact List.map_injective_iff.2 (fun _ _ => Char.toNat_inj.1) h

theorem compareChars_eq_lt_iff {s t : List Char} : compareChars s t = .lt ↔ s < t := by
  induction s generalizing t with
  | nil => cases t <;> simp [compareChars]
  | cons a s ih =>
    cases t with
    | nil => simp [compareChars]
    | cons b t =>
      rw [compareChars, Ordering.then_eq_lt, Nat.compare_eq_lt, Nat.compare_eq_eq, ih,
        List.cons_lt_cons_iff, Char.toNat_inj]
      rfl


/-! ### Components -/

namespace Component

variable {a b : Component}

/-- The codes of a name; other components have none. -/
def codes : Component → List Nat
  | .name s => s.map Char.toNat
  | _ => []

/-- Components compare by kind and then by name. -/
theorem compare_eq (a b : Component) :
    a.compare b = compareLex (compareOn rank) (compareOn codes) a b := by
  cases a <;> cases b <;> first | rfl | exact compareChars_eq _ _

instance : Std.TransCmp Component.compare := by
  have h : Component.compare = compareLex (compareOn rank) (compareOn codes) := by
    funext a b
    exact compare_eq a b
  rw [h]
  infer_instance

/-- The root stands before `.`, this before `..`, and this before all names. -/
inductive Lt : Component → Component → Prop
  /-- Components of different kinds. -/
  | kind {a b : Component} : a.rank < b.rank → Lt a b
  /-- Names in the order of texts. -/
  | name {s t : List Char} : s < t → Lt (.name s) (.name t)

theorem compare_eq_lt_iff : a.compare b = .lt ↔ Lt a b := by
  constructor
  · intro h
    cases a <;> cases b
    case name.name s t => exact .name (compareChars_eq_lt_iff.1 h)
    all_goals exact .kind (Nat.compare_eq_lt.1 h)
  · rintro (h | h)
    · -- two names are of the same kind
      cases a <;> cases b
      case name.name s t => exact absurd h (Nat.lt_irrefl _)
      all_goals exact Nat.compare_eq_lt.2 h
    · exact compareChars_eq_lt_iff.2 h

theorem compare_eq_eq_iff : a.compare b = .eq ↔ a = b := by
  constructor
  · intro h
    cases a <;> cases b
    case name.name s t => rw [eq_of_compareChars h]
    all_goals first | rfl | cases h
  · rintro rfl
    exact Std.ReflCmp.compare_self

end Component

/-! ### Paths -/

variable {p q : Path} {s t : List Component}

theorem compareComponents_eq (s t : List Component) :
    compareComponents s t = List.compareLex Component.compare s t := by
  induction s generalizing t with
  | nil => cases t <;> rfl
  | cons a s ih =>
    cases t with
    | nil => rfl
    | cons b t =>
      rw [compareComponents, ih, List.compareLex_cons_cons]

theorem compareComponents_eq_lt_iff :
    compareComponents s t = .lt ↔ List.Lex Component.Lt s t := by
  induction s generalizing t with
  | nil => cases t <;> simp [compareComponents]
  | cons a s ih =>
    cases t with
    | nil => simp [compareComponents]
    | cons b t =>
      rw [compareComponents, Ordering.then_eq_lt, Component.compare_eq_lt_iff,
        Component.compare_eq_eq_iff, ih, List.cons_lex_cons_iff]

theorem compareComponents_eq_eq_iff : compareComponents s t = .eq ↔ s = t := by
  induction s generalizing t with
  | nil => cases t <;> simp [compareComponents]
  | cons a s ih =>
    cases t with
    | nil => simp [compareComponents]
    | cons b t =>
      rw [compareComponents, Ordering.then_eq_eq, Component.compare_eq_eq_iff, ih,
        List.cons.injEq]

instance : Std.TransCmp Path.compare := by
  have h : Path.compare = fun p q =>
      List.compareLex Component.compare p.components q.components := by
    funext p q
    exact compareComponents_eq _ _
  rw [h]
  exact transCmp_comap _ components

/-- The first path stands before the second one, component by component. -/
def Precedes (p q : Path) : Prop := List.Lex Component.Lt p.components q.components

/-- **Paths are ordered by their components.** -/
theorem compare_eq_lt_iff : p.compare q = .lt ↔ p.Precedes q := compareComponents_eq_lt_iff

/-- Paths compare equal if they have the same components, however they are written. -/
theorem compare_eq_eq_iff : p.compare q = .eq ↔ p.Same q := compareComponents_eq_eq_iff

end StyleAudit.Path
