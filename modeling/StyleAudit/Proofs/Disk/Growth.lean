import StyleAudit.Proofs.Disk.Tree

/-!
# Growing trees

What becomes of a tree in which a node is replaced or a new one is put.  Where a node stood, one
stands afterwards, and the two are related by every relation that passes from a child to its parent
(`Node.Keeps`).  Files, in turn, are those from before and those of the new node
(`Node.Free.get?_set_file`).
-/

namespace StyleAudit.Node

variable {n n' n'' old new : Node} {a : String} {location : List String} {R : Node → Node → Prop}

/-! ### What stays -/

/-- A relation that a parent inherits from each child. -/
structure Inherited (R : Node → Node → Prop) : Prop where
  /-- It holds of what does not change. -/
  refl (n : Node) : R n n
  /-- It passes from a child to its parent. -/
  put {n : Node} {a : String} {c c' : Node} : n.child? a = some c → R c c' → R n (n.put a c')

/-- Where a node stands in the first tree, a node related to it stands in the second one. -/
def Keeps (R : Node → Node → Prop) (n n' : Node) : Prop :=
  ∀ location x, n.get? location = some x → ∃ x', n'.get? location = some x' ∧ R x x'

theorem Keeps.trans (hR : ∀ {x y z}, R x y → R y z → R x z) (h : Keeps R n n')
    (h' : Keeps R n' n'') : Keeps R n n'' := by
  intro location x hx
  obtain ⟨y, hy, hxy⟩ := h location x hx
  obtain ⟨z, hz, hyz⟩ := h' location y hy
  exact ⟨z, hz, hR hxy hyz⟩

namespace Inherited

theorem keeps_refl (hR : Inherited R) (n : Node) : Keeps R n n := fun _ x hx => ⟨x, hx, hR.refl x⟩

theorem keeps_put (hR : Inherited R) {c c' : Node} (hc : n.child? a = some c)
    (h : Keeps R c c') : Keeps R n (n.put a c') := by
  intro location x hx
  cases location with
  | nil =>
    -- The parent itself: it inherits what holds of the child as a whole.
    obtain rfl := Option.some.inj hx
    obtain ⟨c₁, hc₁, hR₁⟩ := h [] c rfl
    obtain rfl := Option.some.inj hc₁
    exact ⟨_, rfl, hR.put hc hR₁⟩
  | cons b names =>
    rw [get?_cons] at hx ⊢
    by_cases hb : b = a
    · subst hb
      rw [hc] at hx
      rw [child?_put_self (isDir_of_child? hc)]
      exact h names x hx
    · rw [child?_put_of_ne hb]
      exact ⟨x, hx, hR.refl x⟩

/-- What a replacement keeps, the whole tree keeps. -/
theorem keeps_set (hR : Inherited R) (h : n.get? location = some old) (hnew : Keeps R old new) :
    Keeps R n (n.set location new) :=
  set_rel (fun _ _ _ _ hc h => hR.keeps_put hc h) h hnew

theorem keeps_put_new (hR : Inherited R) (hc : n.child? a = none) (h : R n (n.put a new)) :
    Keeps R n (n.put a new) := by
  intro location x hx
  cases location with
  | nil =>
    obtain rfl := Option.some.inj hx
    exact ⟨_, rfl, h⟩
  | cons b names =>
    rw [get?_cons] at hx ⊢
    have hb : b ≠ a := by
      rintro rfl
      rw [hc] at hx
      cases hx
    rw [child?_put_of_ne hb]
    exact ⟨x, hx, hR.refl x⟩

/-- A new node is kept out of everything that does not look at the directory it stands in. -/
theorem keeps_set_new (hR : Inherited R) (hf : n.Free location)
    (hnew : ∀ {parent : Node} {a : String}, location.getLast? = some a → parent.isDir →
      parent.child? a = none → R parent (parent.put a new)) :
    Keeps R n (n.set location new) := by
  obtain ⟨hnone, above, a, parent, rfl, hp, hd⟩ := hf
  have hc : parent.child? a = none := by rwa [get?_concat, hp] at hnone
  rw [set_concat hp]
  exact hR.keeps_set hp (hR.keeps_put_new hc (hnew List.getLast?_concat hd hc))

end Inherited

/-- Directories stay directories. -/
theorem inherited_isDir : Inherited fun x x' => x.isDir → x'.isDir where
  refl _ := id
  put _ _ h := by rwa [isDir_put]

/-! ### Files -/

/-- The same files, with the same bytes. -/
def SameFiles (n n' : Node) : Prop :=
  ∀ location bytes, n'.get? location = some (.file bytes) ↔ n.get? location = some (.file bytes)

theorem SameFiles.refl (n : Node) : SameFiles n n := fun _ _ => Iff.rfl

theorem SameFiles.trans (h : SameFiles n n') (h' : SameFiles n' n'') : SameFiles n n'' :=
  fun location bytes => (h' location bytes).trans (h location bytes)

theorem ne_file_of_isDir (h : n.isDir) (bytes : List UInt8) : n ≠ .file bytes := by
  rintro rfl
  cases h

theorem get?_file_cons (bytes : List UInt8) (a : String) (names : List String) :
    (file bytes).get? (a :: names) = none := by
  rw [get?_cons]
  rfl

/-- Directories with the same children hold the same files. -/
theorem SameFiles.of_child? (hd : n.isDir) (hd' : n'.isDir)
    (h : ∀ a names bytes, n'.get? (a :: names) = some (.file bytes) ↔
      n.get? (a :: names) = some (.file bytes)) : SameFiles n n' := by
  intro location bytes
  cases location with
  | nil => simp [ne_file_of_isDir hd, ne_file_of_isDir hd']
  | cons a names => exact h a names bytes

theorem SameFiles.put {c c' : Node} (hc : n.child? a = some c) (h : SameFiles c c') :
    SameFiles n (n.put a c') := by
  have hd := isDir_of_child? hc
  refine .of_child? hd (by rwa [isDir_put]) fun b names bytes => ?_
  rw [get?_cons, get?_cons]
  by_cases hb : b = a
  · subst hb
    rw [child?_put_self hd, hc]
    exact h names bytes
  · rw [child?_put_of_ne hb]

theorem SameFiles.set (h : n.get? location = some old) (hnew : SameFiles old new) :
    SameFiles n (n.set location new) :=
  set_rel (fun _ _ _ _ hc h => SameFiles.put hc h) h hnew

/-- The files after a new node was put: those from before, and those of the new node. -/
theorem Free.get?_set_file (h : n.Free location) (new : Node) (there : List String)
    (bytes : List UInt8) :
    (n.set location new).get? there = some (.file bytes) ↔
      (∃ below, there = location ++ below ∧ new.get? below = some (.file bytes)) ∨
        n.get? there = some (.file bytes) := by
  obtain ⟨hnone, above, a, parent, rfl, hp, hd⟩ := h
  -- Down the directories above: a child is replaced in each of them, and put into the last one.
  induction above generalizing n there with
  | nil =>
    obtain rfl := Option.some.inj hp
    rw [List.nil_append, get?_cons] at hnone
    rw [List.nil_append, Node.set]
    cases there with
    | nil => simp [ne_file_of_isDir hd, ne_file_of_isDir (isDir_put.trans hd)]
    | cons b names =>
      rw [get?_cons, get?_cons]
      by_cases hb : b = a
      · subst hb
        have hc : n.child? b = none := by simpa [Option.bind_eq_none_iff] using hnone
        simp [child?_put_self hd, hc]
      · simp [child?_put_of_ne hb, hb]
  | cons c above ih =>
    rw [get?_cons] at hp
    obtain ⟨child, hc, hparent⟩ := Option.bind_eq_some_iff.1 hp
    rw [List.cons_append, get?_cons, hc] at hnone
    rw [List.cons_append, set_of_child? hc]
    have hdir := isDir_of_child? hc
    cases there with
    | nil => simp [ne_file_of_isDir hdir, ne_file_of_isDir (isDir_put.trans hdir)]
    | cons b names =>
      rw [get?_cons, get?_cons]
      by_cases hb : b = c
      · subst hb
        rw [child?_put_self hdir, hc]
        simpa using ih names hnone hparent
      · simp [child?_put_of_ne hb, hb]

end StyleAudit.Node
