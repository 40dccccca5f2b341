import StyleAudit.Proofs.Disk.Growth

/-!
# Resolving paths

Segments lead from directory to directory, and only the last one may be anything else
(`Disk.Leads`, which `Disk.follow` decides).  So a path leads to the node at its location, or to a
place in a directory where one may be put (`Disk.resolve_free`).  It leads to the same location as
long as directories stay directories, whatever else is put on the disk
(`Disk.resolve_of_keepsDirs`).
-/

namespace StyleAudit

namespace Path

/-- The segments of a path that count. -/
def steps (p : Path) : List (List Char) :=
  (Text.splitAtChar '/' p.text.toList).filter (!·.isEmpty)

/-- A path that the system takes. -/
def Usable (p : Path) : Prop :=
  (p.text.toList.any fun c => c.toNat == 0) = false ∧ p.text.toList.isEmpty = false ∧
    p.text.utf8ByteSize < Disk.pathLimit

end Path

namespace Disk

variable {d d' : Disk} {p : Path} {start location : List String} {segs : List (List Char)}
  {node : Option Node} {x : Node}

/-! ### Directories -/

/-- A directory is at the location. -/
def DirAt (d : Disk) (location : List String) : Prop :=
  ∃ x, d.root.get? location = some x ∧ x.isDir

theorem dirAt_iff : d.DirAt location ↔ (d.root.get? location).any Node.isDir := by
  rw [Option.any_eq_true]
  rfl

/-- What stands above a directory is a directory. -/
theorem DirAt.dropLast (h : d.DirAt location) : d.DirAt location.dropLast := by
  obtain rfl | ⟨above, a, rfl⟩ := location.eq_nil_or_concat
  · exact h
  · obtain ⟨x, hx, -⟩ := h
    rw [List.concat_eq_append] at hx ⊢
    obtain ⟨parent, hp, hd, -⟩ := Node.isDir_of_get?_concat hx
    rw [List.dropLast_concat]
    exact ⟨parent, hp, hd⟩

/-- Directories stay directories, and the working directory is the same. -/
structure KeepsDirs (d d' : Disk) : Prop where
  /-- The working directory is the same. -/
  cwd_eq : d'.cwd = d.cwd
  /-- Directories stay directories. -/
  keeps : d.root.Keeps (fun x x' => x.isDir → x'.isDir) d'.root

namespace KeepsDirs

theorem dirAt (h : d.KeepsDirs d') (hd : d.DirAt location) : d'.DirAt location := by
  obtain ⟨x, hx, hdir⟩ := hd
  obtain ⟨x', hx', hkept⟩ := h.keeps location x hx
  exact ⟨x', hx', hkept hdir⟩

theorem startOf_eq (h : d.KeepsDirs d') (p : Path) : d'.startOf p = d.startOf p := by
  rw [startOf, startOf, h.cwd_eq]

end KeepsDirs

/-! ### Segments -/

/-- A segment that is the name of an entry. -/
def Names (seg : List Char) : Prop :=
  seg ≠ ['.'] ∧ seg ≠ ['.', '.'] ∧ (String.ofList seg).utf8ByteSize ≤ maxName

/-- Segments that lead from a location to another one. -/
inductive Leads (d : Disk) : List String → List (List Char) → List String → Prop
  /-- No segment leads nowhere else. -/
  | stop (start : List String) : Leads d start [] start
  /-- `.` stays. -/
  | here {start location : List String} {segs : List (List Char)} :
      Leads d start segs location → Leads d start (['.'] :: segs) location
  /-- `..` goes up. -/
  | up {start location : List String} {segs : List (List Char)} :
      Leads d start.dropLast segs location → Leads d start (['.', '.'] :: segs) location
  /-- A name leads into a directory. -/
  | into {start location : List String} {seg : List Char} {segs : List (List Char)} :
      Names seg → d.DirAt (start ++ [String.ofList seg]) →
      Leads d (start ++ [String.ofList seg]) segs location → Leads d start (seg :: segs) location
  /-- The last name leads to whatever is there. -/
  | last (start : List String) {seg : List Char} :
      Names seg → Leads d start [seg] (start ++ [String.ofList seg])

theorem Leads.follow_eq (h : d.Leads start segs location) :
    d.follow start segs = .ok (location, d.root.get? location) := by
  induction h with
  | stop start => rw [follow]
  | here _ ih => rw [follow, if_pos (by decide), ih]
  | up _ ih => rw [follow, if_neg (by decide), if_pos (by decide), ih]
  | @into start location seg segs hn hd _ ih =>
    obtain ⟨x, hx, hdir⟩ := hd
    cases x with
    | file bytes => cases hdir
    | dir shared entries => simp [follow, hn.1, hn.2.1, Nat.not_lt.2 hn.2.2, hx, ih]
  | @last start seg hn =>
    cases hx : d.root.get? (start ++ [String.ofList seg]) with
    | none => simp [follow, hn.1, hn.2.1, Nat.not_lt.2 hn.2.2, hx]
    | some x => cases x <;> simp [follow, hn.1, hn.2.1, Nat.not_lt.2 hn.2.2, hx]

theorem leads_of_follow (h : d.follow start segs = .ok (location, node)) :
    d.Leads start segs location := by
  -- Cases 6 and 8 are those of a last segment, at a file and at nothing.
  fun_induction follow d start segs with
  | case1 start =>
    cases h
    exact .stop _
  | case2 start seg segs hhere ih =>
    rw [beq_iff_eq] at hhere
    subst hhere
    exact .here (ih h)
  | case3 start seg segs _ hup ih =>
    rw [beq_iff_eq] at hup
    subst hup
    exact .up (ih h)
  | case4 => cases h
  | case5 start seg segs h₁ h₂ h₃ there shared entries hthere ih =>
    rw [beq_iff_eq] at h₁ h₂
    exact .into ⟨h₁, h₂, Nat.not_lt.1 h₃⟩ ⟨_, hthere, rfl⟩ (ih h)
  | case6 start seg segs h₁ h₂ h₃ there bytes hthere hlast =>
    rw [beq_iff_eq] at h₁ h₂
    obtain rfl := List.isEmpty_iff.1 hlast
    injection h with h
    obtain ⟨rfl, -⟩ := Prod.mk.inj h
    exact .last start ⟨h₁, h₂, Nat.not_lt.1 h₃⟩
  | case7 => cases h
  | case8 start seg segs h₁ h₂ h₃ there hthere hlast =>
    rw [beq_iff_eq] at h₁ h₂
    obtain rfl := List.isEmpty_iff.1 hlast
    injection h with h
    obtain ⟨rfl, -⟩ := Prod.mk.inj h
    exact .last start ⟨h₁, h₂, Nat.not_lt.1 h₃⟩
  | case9 => cases h

theorem follow_eq_ok_iff :
    d.follow start segs = .ok (location, node) ↔
      d.Leads start segs location ∧ d.root.get? location = node := by
  constructor
  · intro h
    have hleads := leads_of_follow h
    rw [hleads.follow_eq] at h
    exact ⟨hleads, by injection h with h; exact (Prod.mk.inj h).2⟩
  · rintro ⟨hleads, rfl⟩
    exact hleads.follow_eq

/-- What is absent is so in a directory, under the name of the last segment. -/
theorem Leads.free (h : d.Leads start segs location) (hs : d.DirAt start)
    (hnone : d.root.get? location = none) :
    d.root.Free location ∧
      ∃ seg, segs.getLast? = some seg ∧ location.getLast? = some (String.ofList seg) := by
  induction h with
  | stop start =>
    obtain ⟨x, hx, -⟩ := hs
    rw [hx] at hnone
    cases hnone
  | here _ ih =>
    obtain ⟨hfree, seg, hseg, hname⟩ := ih hs hnone
    exact ⟨hfree, seg, by rw [List.getLast?_cons, hseg]; rfl, hname⟩
  | up _ ih =>
    obtain ⟨hfree, seg, hseg, hname⟩ := ih hs.dropLast hnone
    exact ⟨hfree, seg, by rw [List.getLast?_cons, hseg]; rfl, hname⟩
  | into _ hd _ ih =>
    obtain ⟨hfree, seg, hseg, hname⟩ := ih hd hnone
    exact ⟨hfree, seg, by rw [List.getLast?_cons, hseg]; rfl, hname⟩
  | @last start seg _ =>
    obtain ⟨parent, hp, hd⟩ := hs
    exact ⟨⟨hnone, start, _, parent, rfl, hp, hd⟩, seg, rfl, List.getLast?_concat⟩

theorem Leads.of_keepsDirs (h : d.Leads start segs location) (hk : d.KeepsDirs d') :
    d'.Leads start segs location := by
  induction h with
  | stop start => exact .stop start
  | here _ ih => exact .here ih
  | up _ ih => exact .up ih
  | into hn hd _ ih => exact .into hn (hk.dirAt hd) ih
  | last start hn => exact .last start hn

/-! ### Paths -/

/-- A check that is made before the rest. -/
theorem ite_error_eq_ok_iff {ε α : Type} {c : Prop} [Decidable c] {e : ε} {r : Except ε α} {a : α} :
    (if c then Except.error e else r) = .ok a ↔ ¬c ∧ r = .ok a := by
  by_cases hc : c <;> simp [hc]

theorem resolve_eq_ok_iff :
    d.resolve p = .ok (location, node) ↔
      p.Usable ∧ d.DirAt (d.startOf p) ∧ d.Leads (d.startOf p) p.steps location ∧
        d.root.get? location = node ∧
        (Text.endsIn '/' p.text.toList → ∀ bytes, node ≠ some (.file bytes)) := by
  rw [resolve, ite_error_eq_ok_iff, ite_error_eq_ok_iff, ite_error_eq_ok_iff, ite_error_eq_ok_iff,
    ← Path.steps, dirAt_iff, ← and_assoc (a := d.Leads _ _ _), ← follow_eq_ok_iff]
  have hchecks : p.Usable ↔ ¬(p.text.toList.any fun c => c.toNat == 0) = true ∧
      ¬p.text.toList.isEmpty = true ∧ ¬pathLimit ≤ p.text.utf8ByteSize := by
    rw [Path.Usable, Bool.not_eq_true, Bool.not_eq_true, Nat.not_le]
  rw [hchecks, Bool.not_eq_true', Bool.not_eq_false, and_assoc, and_assoc]
  refine and_congr_right' (and_congr_right' (and_congr_right' (and_congr_right' ?_)))
  cases d.follow (d.startOf p) p.steps with
  | error e => simp
  | ok r =>
    obtain ⟨there, found⟩ := r
    cases found with
    | none => grind
    | some x => cases x <;> grind

/-- A path that leads to something, or to its absence, leads to what is at its location. -/
theorem resolve_node (h : d.resolve p = .ok (location, node)) : d.root.get? location = node :=
  (resolve_eq_ok_iff.1 h).2.2.2.1

/-- A path to nothing ends in a directory, under the last of its names. -/
theorem resolve_free (h : d.resolve p = .ok (location, none)) :
    d.root.Free location ∧
      ∃ seg, p.steps.getLast? = some seg ∧ location.getLast? = some (String.ofList seg) := by
  obtain ⟨-, hstart, hleads, hnone, -⟩ := resolve_eq_ok_iff.1 h
  exact hleads.free hstart hnone

/-- **Paths stay valid.**  While directories stay directories, a path leads to its location; it may
find a file there only if it does not end in a slash. -/
theorem resolve_of_keepsDirs (hk : d.KeepsDirs d') (h : d.resolve p = .ok (location, node))
    (hx : d'.root.get? location = some x)
    (hslash : Text.endsIn '/' p.text.toList → x.isDir) :
    d'.resolve p = .ok (location, some x) := by
  obtain ⟨husable, hstart, hleads, -, -⟩ := resolve_eq_ok_iff.1 h
  rw [resolve_eq_ok_iff, hk.startOf_eq]
  refine ⟨husable, hk.dirAt hstart, hleads.of_keepsDirs hk, hx, fun hend bytes hbytes => ?_⟩
  exact Node.ne_file_of_isDir (hslash hend) bytes (Option.some.inj hbytes)

/-- A path that leads to something leads to what stands there later. -/
theorem KeepsDirs.resolve {x' : Node} (hk : d.KeepsDirs d')
    (h : d.resolve p = .ok (location, some x)) (hx : d'.root.get? location = some x')
    (hdir : x.isDir → x'.isDir) : d'.resolve p = .ok (location, some x') := by
  refine resolve_of_keepsDirs hk h hx fun hend => hdir ?_
  have hfile := (resolve_eq_ok_iff.1 h).2.2.2.2 hend
  cases x with
  | file bytes => exact absurd rfl (hfile bytes)
  | dir shared entries => rfl

/-! ### What paths lead to -/

theorem lookup?_eq_some_iff :
    d.lookup? p = some x ↔ ∃ location, d.resolve p = .ok (location, some x) := by
  rw [lookup?]
  cases d.resolve p with
  | error e => simp
  | ok r =>
    obtain ⟨location, node⟩ := r
    cases node <;> simp

theorem contains_iff : d.contains p ↔ ∃ location x, d.resolve p = .ok (location, some x) := by
  rw [contains, Option.isSome_iff_exists]
  simp only [lookup?_eq_some_iff]
  exact exists_comm

theorem isDir_iff : d.isDir p ↔ ∃ location x, d.resolve p = .ok (location, some x) ∧ x.isDir := by
  rw [isDir, Option.any_eq_true]
  simp only [lookup?_eq_some_iff]
  constructor
  · rintro ⟨x, ⟨location, hp⟩, hd⟩
    exact ⟨location, x, hp, hd⟩
  · rintro ⟨location, x, hp, hd⟩
    exact ⟨x, ⟨location, hp⟩, hd⟩

theorem isFile_iff :
    d.isFile p ↔ ∃ location bytes, d.resolve p = .ok (location, some (.file bytes)) := by
  rw [isFile, Option.any_eq_true]
  simp only [lookup?_eq_some_iff]
  constructor
  · rintro ⟨x, ⟨location, hp⟩, hd⟩
    cases x with
    | file bytes => exact ⟨location, bytes, hp⟩
    | dir shared entries => cases hd
  · rintro ⟨location, bytes, hp⟩
    exact ⟨.file bytes, ⟨location, hp⟩, rfl⟩

end Disk

end StyleAudit
