import Mathlib.Data.List.Nodup
import Mathlib.Order.Bounds.Basic
import Mathlib.Order.Nat
import StyleAudit.Proofs.Disk.Joined
import StyleAudit.Proofs.Log.Creation
import StyleAudit.Proofs.Text.Numeral

/-!
# Free names for logs

A log takes the first of its names that is free, and the names are never exhausted.  They differ in
a number at the end, which is written after the last slash, so that all of them belong to one
directory and no two are alike (`Log.exists_steps_candidate`, `Log.numbered_injective`).  Of one
name more than the directory has entries, one is therefore free (`Disk.exists_free_candidate`), and
the search ends at the least number whose name is free, where the log is created as a new file or
the system refuses it for another reason (`Disk.createLogIn_eq`).
-/

namespace StyleAudit

namespace Log

variable {stem : String}

/-- The path of a log in a directory, after so many names that were taken. -/
def candidate (dir : Path) (stem : String) (now : Moment) (taken : Nat) : Path :=
  dir.join (fileName stem now taken)

/-! ### Numbers in names -/

/-- What all names of a log start with. -/
def fileHead (stem : String) (now : Moment) : List Char :=
  ("Logs-" ++ stem ++ "-at-" ++ now.nameText).toList

/-- What a name ends in after so many names that were taken. -/
def numbered (taken : Nat) : List Char :=
  (if taken = 0 then [] else '-' :: (toString taken).toList) ++ suffix

theorem toList_fileName (stem : String) (now : Moment) (taken : Nat) :
    (fileName stem now taken).toList = fileHead stem now ++ numbered taken := by
  rw [fileName, String.toList_append, String.toList_append, fileHead, numbered, List.append_assoc]
  congr 2
  split
  · rfl
  · rw [String.toList_append]
    rfl

/-- No two numbers make the same end of a name, and none makes that of the first one. -/
theorem numbered_injective : Function.Injective numbered := by
  intro m n h
  have h := List.append_cancel_right h
  split_ifs at h with hm hn
  · rw [hm, hn]
  · injection h with _ h
    exact Text.toString_injective (String.toList_injective h)

theorem slash_notMem_toString (n : Nat) : '/' ∉ (toString n).toList := fun h =>
  absurd (Text.isDigit_of_mem_toString h) (by decide)

theorem slash_notMem_digits (width n : Nat) : '/' ∉ (Moment.digits width n).toList := by
  rw [Moment.digits, String.toList_append, String.toList_ofList, List.mem_append, not_or]
  refine ⟨fun h => ?_, slash_notMem_toString n⟩
  exact absurd (List.eq_of_mem_replicate h) (by decide)

theorem slash_notMem_nameText (now : Moment) : '/' ∉ now.nameText.toList := by
  have hyear : '/' ∉ (Moment.yearText now.year).toList := by
    rw [Moment.yearText]
    split
    · exact slash_notMem_digits 4 _
    · rw [String.toList_append, List.mem_append, not_or]
      exact ⟨by decide, slash_notMem_toString _⟩
  simp only [Moment.nameText, Moment.dayText, String.toList_append, List.mem_append, not_or]
  have htwo := slash_notMem_digits 2
  exact ⟨⟨⟨⟨⟨⟨htwo _, by decide⟩, htwo _⟩, by decide⟩, htwo _⟩, by decide⟩,
    ⟨⟨⟨htwo _, by decide⟩, htwo _⟩, by decide⟩, hyear⟩

theorem slash_notMem_numbered (taken : Nat) : '/' ∉ numbered taken := by
  rw [numbered, List.mem_append, not_or]
  refine ⟨?_, by decide⟩
  split
  · exact List.not_mem_nil
  · exact List.not_mem_cons_of_ne_of_not_mem (by decide) (slash_notMem_toString taken)

theorem isRelative_fileName (stem : String) (now : Moment) (taken : Nat) :
    Path.IsRelative (fileName stem now taken) := by
  rw [Path.IsRelative, Path.isAbsolute_eq, toList_fileName, fileHead, String.toList_append,
    String.toList_append, String.toList_append, List.append_assoc, List.append_assoc,
    List.append_assoc, List.head?_append]
  rfl

/-- The name of a log is one segment if the stem is part of one. -/
theorem isName_fileName (h : '/' ∉ stem.toList) (now : Moment) (taken : Nat) :
    Path.IsName (fileName stem now taken).toList := by
  refine Path.isName_of_length ?_ ?_
  · rw [toList_fileName, List.length_append, numbered, List.length_append, suffix]
    simp only [List.length_cons]
    omega
  · simp only [toList_fileName, fileHead, String.toList_append, List.mem_append, not_or]
    exact ⟨⟨⟨⟨by decide, h⟩, by decide⟩, slash_notMem_nameText now⟩, slash_notMem_numbered taken⟩

/-- The names of a log are in one directory: they share all segments but the last. -/
theorem exists_steps_candidate (dir : Path) (stem : String) (now : Moment) :
    ∃ segs last, ∀ taken, (candidate dir stem now taken).steps = segs ++ [last ++ numbered taken] ∧
      Path.IsName (last ++ numbered taken) := by
  obtain ⟨parts, last, hparts⟩ :=
    Text.exists_splitAtChar_append '/' (dir.front ++ fileHead stem now)
  refine ⟨parts.filter (!·.isEmpty), last, fun taken => ?_⟩
  have hsplit := hparts (numbered taken) (slash_notMem_numbered taken)
  have hname : Path.IsName (last ++ numbered taken) := by
    have hmem : last ++ numbered taken ∈
        Text.splitAtChar '/' (dir.front ++ fileHead stem now ++ numbered taken) := by
      rw [hsplit]
      exact List.mem_append_right _ List.mem_cons_self
    refine Path.isName_of_length ?_ (Text.notMem_of_mem_splitAtChar hmem)
    rw [List.length_append, numbered, List.length_append, suffix]
    simp only [List.length_cons]
    omega
  refine ⟨?_, hname⟩
  rw [Path.steps, candidate, Path.toList_join dir (isRelative_fileName stem now taken),
    toList_fileName, ← List.append_assoc, hsplit, List.filter_append, List.filter_cons_of_pos,
    List.filter_nil]
  simpa using hname.ne_nil

end Log

namespace Disk

open Log

variable {d d' : Disk} {p dir : Path} {stem : String} {now : Moment} {log : Log}

/-! ### Names that are taken -/

theorem Leads.unique {start a b : List String} {segs : List (List Char)}
    (h : d.Leads start segs a) (h' : d.Leads start segs b) : a = b := by
  have heq := h.follow_eq.symm.trans h'.follow_eq
  injection heq with heq
  exact (Prod.mk.inj heq).1

/-- Nothing stands in the way of a path that does not exist. -/
theorem follow_ne_present {start : List String} {segs : List (List Char)} :
    d.follow start segs ≠ .error .present := by
  fun_induction follow d start segs <;> simp_all

theorem resolve_ne_present : d.resolve p ≠ .error .present := by
  rw [resolve]
  iterate 4
    split
    · simp
  split
  · split <;> simp
  · exact follow_ne_present

/-- **A file is refused because it exists exactly if something is at its path.** -/
theorem createFile_eq_present_iff : d.createFile p = .error .present ↔ d.contains p := by
  rw [contains_iff, createFile]
  cases hp : d.resolve p with
  | error e =>
    have hne : e ≠ .present := fun h => resolve_ne_present (h ▸ hp)
    simpa using hne
  | ok r =>
    obtain ⟨location, node⟩ := r
    cases node <;> simp

/-- All names of a log that are taken are entries of one directory. -/
theorem exists_entries (h : d.contains (candidate dir stem now 0)) :
    ∃ (last : List Char) (entries : List (String × Node)),
      d.neighbours (candidate dir stem now 0) = entries.length ∧
        ∀ taken, d.contains (candidate dir stem now taken) →
          String.ofList (last ++ numbered taken) ∈ entries.map Prod.fst := by
  obtain ⟨segs, last, hsteps⟩ := exists_steps_candidate dir stem now
  -- The path under each number leads through the same directory.
  have hplace : ∀ taken, d.contains (candidate dir stem now taken) →
      ∃ above x, d.Leads (d.startOf dir) segs above ∧
        d.resolve (candidate dir stem now taken) =
          .ok (above ++ [String.ofList (last ++ numbered taken)], some x) ∧
        d.root.get? (above ++ [String.ofList (last ++ numbered taken)]) = some x := by
    intro taken htaken
    obtain ⟨location, x, hresolve⟩ := contains_iff.1 htaken
    obtain ⟨-, hstart, hleads, hnode, -⟩ := resolve_eq_ok_iff.1 hresolve
    obtain ⟨hseg, hname⟩ := hsteps taken
    rw [hseg] at hleads
    obtain ⟨above, habove, -, -, rfl⟩ :=
      (leads_concat_iff hstart hname.ne_here hname.ne_up).1 hleads
    rw [candidate, Path.startOf_join d dir (isRelative_fileName stem now taken)] at habove
    exact ⟨above, x, habove, hresolve, hnode⟩
  obtain ⟨above, x, habove, hresolve, hx⟩ := hplace 0 h
  obtain ⟨parent, hparent, hdir, -⟩ := Node.isDir_of_get?_concat hx
  cases parent with
  | file bytes => cases hdir
  | dir shared entries =>
    refine ⟨last, entries, ?_, fun taken htaken => ?_⟩
    · rw [neighbours, hresolve]
      dsimp only
      rw [List.dropLast_concat, hparent]
    · obtain ⟨above', x', habove', -, hx'⟩ := hplace taken htaken
      obtain rfl := habove.unique habove'
      rw [Node.get?_concat, hparent, Option.bind_some, Node.child?] at hx'
      obtain ⟨front, back, rfl, -⟩ := List.lookup_eq_some_iff.1 hx'
      simp

/-- **The names of a log are never exhausted.**  One more of them than there are entries is enough
to find a free one. -/
theorem exists_free_candidate (d : Disk) (dir : Path) (stem : String) (now : Moment) :
    ∃ taken ≤ d.neighbours (candidate dir stem now 0),
      ¬d.contains (candidate dir stem now taken) := by
  by_contra hall
  push Not at hall
  obtain ⟨last, entries, hn, hmem⟩ := exists_entries (hall 0 (Nat.zero_le _))
  rw [hn] at hall
  have hinj : Function.Injective fun taken => String.ofList (last ++ numbered taken) :=
    fun m n h => numbered_injective (List.append_cancel_left (String.ofList_injective h))
  have hsub : ((List.range (entries.length + 1)).map fun taken =>
      String.ofList (last ++ numbered taken)) ⊆ entries.map Prod.fst := by
    intro name hname
    obtain ⟨taken, htaken, rfl⟩ := List.mem_map.1 hname
    exact hmem taken (hall taken (Nat.lt_succ_iff.1 (List.mem_range.1 htaken)))
  have hle := (List.Nodup.map hinj List.nodup_range).length_le_of_subset hsub
  rw [List.length_map, List.length_map, List.length_range] at hle
  exact Nat.not_succ_le_self _ hle

/-! ### The search -/

/-- Creates a log at a path, whatever the reason if it cannot be. -/
def logAt (d : Disk) (p : Path) : Except Failure (Log × Disk) :=
  match d.createFile p with
  | .ok (location, d') => .ok (⟨p, location⟩, d')
  | .error e => .error (e.during "create log file" p)

theorem createLogAt_of_contains (h : d.contains p)
    (other : Unit → Except Failure (Log × Disk)) : d.createLogAt p other = other () := by
  rw [createLogAt, createFile_eq_present_iff.2 h]

theorem createLogAt_of_not_contains (h : ¬d.contains p)
    (other : Unit → Except Failure (Log × Disk)) : d.createLogAt p other = d.logAt p := by
  have hne := mt createFile_eq_present_iff.1 h
  rw [createLogAt, logAt]
  cases hp : d.createFile p with
  | ok r => rfl
  | error e =>
    rw [hp] at hne
    cases e <;> first | rfl | exact absurd rfl hne

/-- The search passes over names that are taken and stops at the first one that is free. -/
theorem createLogFrom_eq {free : Nat} (hfree : ¬d.contains (candidate dir stem now free))
    {taken tries : Nat} (hle : taken ≤ free) (hlt : free < taken + tries)
    (htaken : ∀ j, j < free → d.contains (candidate dir stem now j)) :
    d.createLogFrom dir stem now taken tries = d.logAt (candidate dir stem now free) := by
  induction tries generalizing taken with
  | zero => omega
  | succ tries ih =>
    rw [createLogFrom, ← candidate]
    obtain rfl | hne := Nat.eq_or_lt_of_le hle
    · exact createLogAt_of_not_contains hfree _
    · rw [createLogAt_of_contains (htaken taken hne)]
      exact ih hne (by omega)

/-- **The search for a name ends at the least number whose name is free.** -/
theorem createLogIn_eq (d : Disk) (dir : Path) (stem : String) (now : Moment) :
    ∃ free ≤ d.neighbours (candidate dir stem now 0),
      IsLeast {taken | ¬d.contains (candidate dir stem now taken)} free ∧
        d.createLogIn dir stem now = d.logAt (candidate dir stem now free) := by
  classical
  obtain ⟨taken, hle, htaken⟩ := exists_free_candidate d dir stem now
  have hleast := Nat.isLeast_find (p := fun taken => ¬d.contains (candidate dir stem now taken))
    ⟨taken, htaken⟩
  have hbound := (hleast.2 htaken).trans hle
  refine ⟨_, hbound, hleast, ?_⟩
  rw [createLogIn]
  refine createLogFrom_eq hleast.1 (Nat.zero_le _) ?_ fun j hj => ?_
  · rw [Nat.zero_add]
    exact Nat.lt_succ_of_le hbound
  · by_contra hcontains
    exact absurd hj (Nat.not_lt.2 (hleast.2 hcontains))

theorem createLogIn_newLog (h : d.createLogIn dir stem now = .ok (log, d')) :
    d.NewLog log ∧ d' = d.put log.location (.file []) := createLogFrom_newLog h

/-- A name that is refused at most because it is taken is that of a place in a directory. -/
theorem exists_resolve_join {name : String} (hname : Path.IsName name.toList)
    (h : ∀ e, d.createFile (dir.join name) = .error e → e = .present) :
    ∃ above, d.Leads (d.startOf dir) dir.steps above ∧ d.DirAt above ∧
      d.resolve (dir.join name) = .ok (above ++ [name], d.root.get? (above ++ [name])) := by
  cases hp : d.resolve (dir.join name) with
  | error e =>
    have he : e = .present := h e (by rw [createFile, hp])
    exact absurd (he ▸ hp) resolve_ne_present
  | ok r =>
    obtain ⟨location, node⟩ := r
    obtain ⟨-, -, -, above, habove, hd, rfl, rfl⟩ := (resolve_join dir hname).1 hp
    exact ⟨above, habove, hd, rfl⟩

/-- A name is taken iff an entry of the directory has it. -/
theorem contains_iff_mem_entries {above : List String} {name : String} {shared : Bool}
    {entries : List (String × Node)}
    (hp : d.resolve p = .ok (above ++ [name], d.root.get? (above ++ [name])))
    (hdir : d.root.get? above = some (.dir shared entries)) :
    d.contains p ↔ name ∈ entries.map Prod.fst := by
  rw [contains, lookup?, hp, Node.get?_concat, hdir, Option.bind_some, Node.child?,
    List.lookup_isSome_iff, List.mem_map]
  simp only [beq_iff_eq]
  exact exists_congr fun _ => and_congr_right' eq_comm

/-- **The names in the directory decide.**  In a directory where files can be created, the log gets
the least number whose name is not that of an entry. -/
theorem createLogIn_entries (hstem : '/' ∉ stem.toList)
    (h : ∀ taken ≤ d.neighbours (candidate dir stem now 0), ∀ e,
      d.createFile (candidate dir stem now taken) = .error e → e = .present) :
    ∃ above shared entries, d.Leads (d.startOf dir) dir.steps above ∧
      d.root.get? above = some (.dir shared entries) ∧
      ∃ free, IsLeast {taken | fileName stem now taken ∉ entries.map Prod.fst} free ∧
        d.createLogIn dir stem now =
          .ok (⟨candidate dir stem now free, above ++ [fileName stem now free]⟩,
            d.put (above ++ [fileName stem now free]) (.file [])) := by
  obtain ⟨free, hbound, hleast, hcreate⟩ := createLogIn_eq d dir stem now
  have hname := isName_fileName hstem now
  obtain ⟨above, habove, ⟨parent, hparent, hdir⟩, hresolve⟩ :=
    exists_resolve_join (hname free) (h free hbound)
  cases parent with
  | file bytes => cases hdir
  | dir shared entries =>
    have hentry : ∀ taken ≤ d.neighbours (candidate dir stem now 0),
        d.contains (candidate dir stem now taken) ↔
          fileName stem now taken ∈ entries.map Prod.fst := by
      intro taken htaken
      obtain ⟨above', habove', -, hp⟩ := exists_resolve_join (hname taken) (h taken htaken)
      obtain rfl := habove.unique habove'
      exact contains_iff_mem_entries hp hparent
    refine ⟨above, shared, entries, habove, hparent, free, ⟨?_, fun taken htaken => ?_⟩, ?_⟩
    · exact mt (hentry free hbound).2 hleast.1
    · by_contra hlt
      have hle := (Nat.not_le.1 hlt).le.trans hbound
      exact htaken ((hentry taken hle).1 (by_contra fun hfree => hlt (hleast.2 hfree)))
    · have hnone : d.root.get? (above ++ [fileName stem now free]) = none := by
        have hfree := hleast.1
        rw [Set.mem_ofPred_eq, contains, lookup?, candidate, hresolve] at hfree
        exact Option.not_isSome_iff_eq_none.1 hfree
      rw [hcreate, logAt, createFile, candidate, hresolve, hnone]

end Disk

end StyleAudit
