import Mathlib.Tactic.SplitIfs
import StyleAudit.Disk

/-!
# Trees of files

What is at a location after something was put at another one.  A node is replaced by replacing its
ancestors one by one (`Node.set_of_child?`), so that a relation between trees holds of a replacement
if it holds where the replacement is made and passes from a child to its parent (`Node.set_rel`).
To put a node at a new location is to replace the directory that it stands in (`Node.set_concat`);
in this way what is shown of replacements serves new nodes, too.
-/

namespace StyleAudit.Node

variable {n old new : Node} {a b : String} {location : List String}

/-! ### Entries -/

theorem lookup_putEntry (a : String) (new : Node) (entries : List (String × Node)) (b : String) :
    (putEntry a new entries).lookup b = if b = a then some new else entries.lookup b := by
  induction entries with
  | nil =>
    by_cases h : b = a
    · simp [putEntry, h]
    · simp [putEntry, List.lookup_cons, h, beq_eq_false_iff_ne.2 h]
  | cons e rest ih =>
    obtain ⟨name, child⟩ := e
    by_cases ha : name = a
    · subst ha
      by_cases h : b = name
      · simp [putEntry, h]
      · simp [putEntry, List.lookup_cons, h, beq_eq_false_iff_ne.2 h]
    · simp only [putEntry, beq_iff_eq, ha, if_false, List.lookup_cons, ih]
      by_cases h : b = name
      · subst h
        simp [ha]
      · simp [beq_eq_false_iff_ne.2 h]

theorem putEntry_putEntry (a : String) (old new : Node) (entries : List (String × Node)) :
    putEntry a new (putEntry a old entries) = putEntry a new entries := by
  induction entries with
  | nil => simp [putEntry]
  | cons e rest ih =>
    by_cases ha : e.1 = a
    · simp [putEntry, ha]
    · simp [putEntry, ha, ih]

/-- A new name is put behind the others. -/
theorem putEntry_of_lookup_eq_none {entries : List (String × Node)} (h : entries.lookup a = none) :
    putEntry a new entries = entries ++ [(a, new)] := by
  induction entries with
  | nil => rfl
  | cons e rest ih =>
    obtain ⟨name, child⟩ := e
    rw [List.lookup_cons] at h
    by_cases ha : a = name
    · simp [ha] at h
    · rw [beq_eq_false_iff_ne.2 ha] at h
      have hne : (name == a) = false := beq_eq_false_iff_ne.2 (Ne.symm ha)
      rw [putEntry, hne, if_neg Bool.false_ne_true, ih h, List.cons_append]

/-- A name that is there is replaced in its place. -/
theorem exists_putEntry_eq {entries : List (String × Node)} (h : entries.lookup a = some old) :
    ∃ front back, entries = front ++ (a, old) :: back ∧
      ∀ new, putEntry a new entries = front ++ (a, new) :: back := by
  induction entries with
  | nil => cases h
  | cons e rest ih =>
    obtain ⟨name, child⟩ := e
    rw [List.lookup_cons] at h
    by_cases ha : a = name
    · subst ha
      simp only [beq_self_eq_true, Option.some.injEq] at h
      exact ⟨[], rest, by rw [h, List.nil_append], fun new => by simp [putEntry]⟩
    · rw [beq_eq_false_iff_ne.2 ha] at h
      have hne : (name == a) = false := beq_eq_false_iff_ne.2 (Ne.symm ha)
      obtain ⟨front, back, rfl, hput⟩ := ih h
      refine ⟨(name, child) :: front, back, rfl, fun new => ?_⟩
      rw [putEntry, hne, if_neg Bool.false_ne_true, hput, List.cons_append]

/-! ### Children -/

theorem exists_of_child? (h : n.child? a = some old) :
    ∃ shared entries, n = .dir shared entries ∧ entries.lookup a = some old := by
  cases n with
  | file bytes => cases h
  | dir shared entries => exact ⟨shared, entries, rfl, h⟩

@[simp] theorem child?_put_dir (shared : Bool) (entries : List (String × Node)) (a : String)
    (new : Node) (b : String) :
    ((dir shared entries).put a new).child? b = if b = a then some new else entries.lookup b :=
  lookup_putEntry a new entries b

/-- Children under other names are kept. -/
theorem child?_put_of_ne (h : b ≠ a) : (n.put a new).child? b = n.child? b := by
  cases n with
  | file bytes => rfl
  | dir shared entries => rw [child?_put_dir, if_neg h, child?]

theorem child?_put_self (h : n.isDir) : (n.put a new).child? a = some new := by
  cases n with
  | file bytes => cases h
  | dir shared entries => rw [child?_put_dir, if_pos rfl]

theorem put_put (n : Node) (a : String) (old new : Node) :
    (n.put a old).put a new = n.put a new := by
  cases n with
  | file bytes => rfl
  | dir shared entries => simp only [put, putEntry_putEntry]

/-- To put a child where it is changes nothing. -/
theorem put_of_child? (h : n.child? a = some old) : n.put a old = n := by
  obtain ⟨shared, entries, rfl, hl⟩ := exists_of_child? h
  obtain ⟨front, back, rfl, hput⟩ := exists_putEntry_eq hl
  rw [put, hput]

theorem isDir_put : (n.put a new).isDir = n.isDir := by
  cases n <;> rfl

theorem isDir_of_child? (h : n.child? a = some old) : n.isDir := by
  obtain ⟨shared, entries, rfl, -⟩ := exists_of_child? h
  rfl

/-! ### Locations -/

@[simp] theorem get?_nil (n : Node) : n.get? [] = some n := by rw [get?]

theorem get?_cons (n : Node) (a : String) (names : List String) :
    n.get? (a :: names) = (n.child? a).bind (·.get? names) := by rw [get?]

theorem get?_append (n : Node) (above below : List String) :
    n.get? (above ++ below) = (n.get? above).bind (·.get? below) := by
  induction above generalizing n with
  | nil => rfl
  | cons a above ih =>
    rw [List.cons_append, get?_cons, get?_cons]
    cases n.child? a with
    | none => rfl
    | some c => exact ih c

theorem get?_concat (n : Node) (above : List String) (a : String) :
    n.get? (above ++ [a]) = (n.get? above).bind (·.child? a) := by
  rw [get?_append]
  congr 1
  funext c
  rw [get?_cons]
  cases c.child? a <;> rfl

/-- What stands below something stands in a directory. -/
theorem isDir_of_get?_concat {above : List String} (h : n.get? (above ++ [a]) = some old) :
    ∃ parent, n.get? above = some parent ∧ parent.isDir ∧ parent.child? a = some old := by
  rw [get?_concat] at h
  obtain ⟨parent, hp, hc⟩ := Option.bind_eq_some_iff.1 h
  exact ⟨parent, hp, isDir_of_child? hc, hc⟩

theorem set_of_child? {c : Node} (h : n.child? a = some c) (names : List String) (new : Node) :
    n.set (a :: names) new = n.put a (c.set names new) := by
  cases names with
  | nil => rw [set, set]
  | cons b names => simp only [set, h]

/-- **Replacements by way of the ancestors.**  A relation that holds of what is replaced and its
replacement, and that a parent inherits from its child, holds of the whole trees. -/
theorem set_rel {R : Node → Node → Prop}
    (hput : ∀ (n : Node) (a : String) (c c' : Node), n.child? a = some c → R c c' →
      R n (n.put a c'))
    (h : n.get? location = some old) (hR : R old new) : R n (n.set location new) := by
  induction location generalizing n with
  | nil =>
    obtain rfl := Option.some.inj h
    rwa [set]
  | cons a names ih =>
    rw [get?_cons] at h
    obtain ⟨c, hc, h⟩ := Option.bind_eq_some_iff.1 h
    rw [set_of_child? hc]
    exact hput n a c _ hc (ih h)

/-- To put a node into a directory is to replace the directory. -/
theorem set_concat {parent : Node} {above : List String} (h : n.get? above = some parent)
    (a : String) (new : Node) : n.set (above ++ [a]) new = n.set above (parent.put a new) := by
  induction above generalizing n with
  | nil =>
    obtain rfl := Option.some.inj h
    rfl
  | cons b above ih =>
    rw [get?_cons] at h
    obtain ⟨c, hc, h⟩ := Option.bind_eq_some_iff.1 h
    rw [List.cons_append, set_of_child? hc, set_of_child? hc, ih h]

theorem get?_set_of_get? (h : n.get? location = some old) (new : Node) :
    (n.set location new).get? location = some new := by
  induction location generalizing n with
  | nil => rfl
  | cons a names ih =>
    rw [get?_cons] at h
    obtain ⟨c, hc, h⟩ := Option.bind_eq_some_iff.1 h
    rw [set_of_child? hc, get?_cons, child?_put_self (isDir_of_child? hc)]
    exact ih h

theorem set_set_of_get? (h : n.get? location = some old) (first second : Node) :
    (n.set location first).set location second = n.set location second := by
  induction location generalizing n with
  | nil => rfl
  | cons a names ih =>
    rw [get?_cons] at h
    obtain ⟨c, hc, h⟩ := Option.bind_eq_some_iff.1 h
    rw [set_of_child? hc, set_of_child? (child?_put_self (isDir_of_child? hc)), put_put, ih h,
      set_of_child? hc]

/-! ### New nodes -/

/-- A location without a node, in a directory. -/
def Free (n : Node) (location : List String) : Prop :=
  n.get? location = none ∧
    ∃ above a parent, location = above ++ [a] ∧ n.get? above = some parent ∧ parent.isDir

theorem Free.set_set (h : n.Free location) (first second : Node) :
    (n.set location first).set location second = n.set location second := by
  obtain ⟨-, above, a, parent, rfl, hp, hd⟩ := h
  rw [set_concat hp, set_concat (get?_set_of_get? hp _), set_set_of_get? hp, put_put,
    set_concat hp]

end StyleAudit.Node
