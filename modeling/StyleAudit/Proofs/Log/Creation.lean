import Mathlib.Logic.Relation
import StyleAudit.Log
import StyleAudit.Proofs.Disk.Resolve
import StyleAudit.Proofs.Path.Name

/-!
# Creating logs

Before a log is created, directories are: those on the way to it that do not exist, one by one, and
the last one may be shared (`Disk.Preparation`).  No other step is taken, whether or not the log can
be created in the end (`Disk.createLog_error`, `Disk.createLog_ok`).  The steps leave every file
alone (`Disk.Prepares.sameFiles`), and what stands on the disk is kept up to every relation that
they respect (`Disk.Prepares.keeps`).  The log itself is a new file, and its path leads to it once
it is there (`Disk.NewLog.read_put`).
-/

namespace StyleAudit

/-- What the name of every log ends in. -/
def Log.suffix : List Char := ['.', 'l', 'o', 'g']

/-- A joined path ends in what was appended to it. -/
theorem Path.suffix_join {t : List Char} {rest : String} (p : Path) (h : t <:+ rest.toList) :
    t <:+ (p.join rest).text.toList := by
  rw [join]
  split
  · exact h
  · split
    · rw [String.toList_append]
      exact h.trans (List.suffix_append _ _)
    · rw [String.toList_append]
      exact h.trans (List.suffix_append _ _)

theorem Log.suffix_fileName (stem : String) (now : Moment) (taken : Nat) :
    Log.suffix <:+ (fileName stem now taken).toList := by
  rw [fileName, String.toList_append]
  exact List.suffix_append _ _

namespace Disk

variable {d d' : Disk} {p : Path} {location : List String} {log : Log} {R : Node → Node → Prop}

/-! ### Preparations -/

/-- A step before a log is created. -/
inductive Preparation : Disk → Disk → Prop
  /-- A directory is created. -/
  | create {d : Disk} {location : List String} :
      d.root.Free location → Preparation d (d.put location (.dir false []))
  /-- A directory is shared. -/
  | share {d : Disk} {location : List String} {shared : Bool} {entries : List (String × Node)} :
      d.root.get? location = some (.dir shared entries) →
      Preparation d (d.put location (.dir true entries))

/-- Steps before a log is created. -/
def Prepares : Disk → Disk → Prop := Relation.ReflTransGen Preparation

theorem Prepares.refl (d : Disk) : d.Prepares d := Relation.ReflTransGen.refl

theorem Preparation.prepares (h : Preparation d d') : d.Prepares d' := .single h

theorem createDir_preparation (h : d.createDir p = .ok d') : Preparation d d' := by
  rw [createDir] at h
  split at h
  · cases h
  · cases h
  · next hp =>
    cases h
    exact .create (resolve_free hp).1

theorem createDirsUpTo_prepares (fuel : Nat) (d : Disk) (p : Path) :
    d.Prepares (createDirsUpTo fuel d p).2 := by
  -- In cases 3 to 5 the directory above was missing; what was created for it stays in each of them.
  fun_induction createDirsUpTo fuel d p with
  | case1 => exact .refl d
  | case2 _ p _ d' hp => exact (createDir_preparation hp).prepares
  | case3 p _ _ fuel above _ e d' habove ih => rwa [habove] at ih
  | case4 p _ _ fuel above _ d' habove d'' hp ih =>
    rw [habove] at ih
    exact ih.tail (createDir_preparation hp)
  | case5 p _ _ fuel above _ d' habove e _ ih => rwa [habove] at ih
  | case6 => exact .refl d
  | case7 => exact .refl d

theorem share_prepares (h : d.share p = .ok d') : d.Prepares d' := by
  rw [share] at h
  split at h
  · cases h
  · cases h
  · cases h
    exact .refl d
  · next hp =>
    cases h
    exact (Preparation.share (resolve_node hp)).prepares

theorem createLogDir_prepares (d : Disk) (dir : Path) (shared : Bool) :
    d.Prepares (d.createLogDir dir shared).2 := by
  have hdirs := createDirsUpTo_prepares dir.components.length d dir
  rw [← createDirs] at hdirs
  rw [createLogDir]
  split
  · next hd => rwa [hd] at hdirs
  · next hd =>
    rw [hd] at hdirs
    split
    · split
      · exact hdirs
      · next hs => exact hdirs.trans (share_prepares hs)
    · exact hdirs

/-! ### What preparations keep -/

/-- A relation between nodes that preparations respect. -/
structure Respected (R : Node → Node → Prop) : Prop extends Node.Inherited R where
  /-- It is transitive. -/
  trans {x y z : Node} : R x y → R y z → R x z
  /-- A directory may be created. -/
  create {n : Node} {a : String} : n.isDir → n.child? a = none → R n (n.put a (.dir false []))
  /-- A directory may be shared. -/
  share (shared : Bool) (entries : List (String × Node)) :
    R (.dir shared entries) (.dir true entries)

theorem Preparation.keeps (hR : Respected R) (h : Preparation d d') :
    d.root.Keeps R d'.root := by
  cases h with
  | create hfree => exact hR.keeps_set_new hfree fun _ hd hc => hR.create hd hc
  | @share location shared entries hdir =>
    refine hR.keeps_set hdir fun below x hx => ?_
    cases below with
    | nil =>
      obtain rfl := Option.some.inj hx
      exact ⟨_, rfl, hR.share shared entries⟩
    | cons a names => exact ⟨x, by rwa [Node.get?_cons] at hx ⊢, hR.refl x⟩

theorem Prepares.keeps (hR : Respected R) (h : d.Prepares d') : d.root.Keeps R d'.root := by
  induction h with
  | refl => exact hR.keeps_refl _
  | tail _ hstep ih => exact ih.trans hR.trans (hstep.keeps hR)

theorem Prepares.cwd_eq (h : d.Prepares d') : d'.cwd = d.cwd := by
  induction h with
  | refl => rfl
  | tail _ hstep ih => cases hstep <;> exact ih

theorem respected_isDir : Respected fun x x' => x.isDir → x'.isDir where
  toInherited := Node.inherited_isDir
  trans h h' hx := h' (h hx)
  create hd _ _ := Node.isDir_put.trans hd
  share _ _ _ := rfl

theorem Prepares.keepsDirs (h : d.Prepares d') : d.KeepsDirs d' :=
  ⟨h.cwd_eq, h.keeps respected_isDir⟩

theorem Preparation.sameFiles (h : Preparation d d') : d.root.SameFiles d'.root := by
  cases h with
  | create hfree =>
    intro there bytes
    refine (hfree.get?_set_file _ there bytes).trans (or_iff_right ?_)
    rintro ⟨below, -, hbelow⟩
    cases below with
    | nil => cases hbelow
    | cons a names =>
      rw [Node.get?_cons] at hbelow
      cases hbelow
  | @share location shared entries hdir =>
    refine .set hdir (.of_child? rfl rfl fun a names bytes => ?_)
    rw [Node.get?_cons, Node.get?_cons]
    rfl

/-- Preparations leave every file as it is, and make none. -/
theorem Prepares.sameFiles (h : d.Prepares d') : d.root.SameFiles d'.root := by
  induction h with
  | refl => exact .refl _
  | tail _ hstep ih => exact ih.trans hstep.sameFiles

/-! ### New logs -/

/-- A log that can be created: nothing is at its path yet. -/
structure NewLog (d : Disk) (log : Log) : Prop where
  /-- Nothing is at its path. -/
  resolve_eq : d.resolve log.path = .ok (log.location, none)
  /-- Its path is that of a log. -/
  suffix : Log.suffix <:+ log.path.text.toList

theorem createLogAt_newLog {other : Unit → Except Failure (Log × Disk)}
    (hp : Log.suffix <:+ p.text.toList) (h : d.createLogAt p other = .ok (log, d')) :
    (d.NewLog log ∧ d' = d.put log.location (.file [])) ∨ other () = .ok (log, d') := by
  rw [createLogAt] at h
  split at h
  · next location d₁ hfile =>
    cases h
    rw [createFile] at hfile
    split at hfile
    · cases hfile
    · cases hfile
    · next hresolve =>
      cases hfile
      exact .inl ⟨⟨hresolve, hp⟩, rfl⟩
  · exact .inr h
  · cases h

theorem createLogFrom_newLog {dir : Path} {stem : String} {now : Moment} {taken tries : Nat}
    (h : d.createLogFrom dir stem now taken tries = .ok (log, d')) :
    d.NewLog log ∧ d' = d.put log.location (.file []) := by
  induction tries generalizing taken with
  | zero => cases h
  | succ tries ih =>
    rw [createLogFrom] at h
    obtain hnew | hother :=
      createLogAt_newLog (dir.suffix_join (Log.suffix_fileName stem now taken)) h
    · exact hnew
    · exact ih hother

/-- A log that cannot be created leaves a prepared disk behind. -/
theorem createLog_error {g : General} {source : Path} {now : Moment} {e : Failure}
    (h : d.createLog g source now = (.error e, d')) : d.Prepares d' := by
  have hprep := createLogDir_prepares d (g.logDir source) g.sharedLogs
  rw [createLog] at h
  split at h
  · next hdir =>
    cases h
    rwa [hdir] at hprep
  · next hdir =>
    rw [hdir] at hprep
    split at h
    · cases h
      exact hprep
    · cases h

/-- A log that can be created is created on a prepared disk. -/
theorem exists_createLogIn {g : General} {source : Path} {now : Moment}
    (h : d.createLog g source now = (.ok log, d')) :
    ∃ d₁, d.Prepares d₁ ∧ d₁.createLogIn (g.logDir source)
      ((source.stem?.map String.ofList).getD "source") now = .ok (log, d') := by
  have hprep := createLogDir_prepares d (g.logDir source) g.sharedLogs
  rw [createLog] at h
  split at h
  · cases h
  · next d₁ hdir =>
    rw [hdir] at hprep
    split at h
    · cases h
    · next hlog =>
      cases h
      exact ⟨d₁, hprep, hlog⟩

/-- It is put there as a new and empty file. -/
theorem createLog_ok {g : General} {source : Path} {now : Moment}
    (h : d.createLog g source now = (.ok log, d')) :
    ∃ d₁, d.Prepares d₁ ∧ d₁.NewLog log ∧ d' = d₁.put log.location (.file []) := by
  obtain ⟨d₁, hprep, hlog⟩ := exists_createLogIn h
  obtain ⟨hnew, heq⟩ := createLogFrom_newLog hlog
  exact ⟨d₁, hprep, hnew, heq⟩

namespace NewLog

theorem free (h : d.NewLog log) : d.root.Free log.location := (resolve_free h.resolve_eq).1

/-- The files once the log is there. -/
theorem get?_put (h : d.NewLog log) (content : List UInt8) (there : List String)
    (bytes : List UInt8) :
    (d.put log.location (.file content)).root.get? there = some (.file bytes) ↔
      (there = log.location ∧ bytes = content) ∨ d.root.get? there = some (.file bytes) := by
  refine (h.free.get?_set_file _ there bytes).trans (or_congr_left ?_)
  constructor
  · rintro ⟨below, rfl, hbelow⟩
    cases below with
    | nil =>
      cases hbelow
      exact ⟨List.append_nil _, rfl⟩
    | cons a names =>
      rw [Node.get?_file_cons] at hbelow
      cases hbelow
  · rintro ⟨rfl, rfl⟩
    exact ⟨[], (List.append_nil _).symm, rfl⟩

theorem put_put (h : d.NewLog log) (first second : Node) :
    (d.put log.location first).put log.location second = d.put log.location second := by
  simp only [put, h.free.set_set]

theorem keepsDirs_put (h : d.NewLog log) (content : List UInt8) :
    d.KeepsDirs (d.put log.location (.file content)) where
  cwd_eq := rfl
  keeps := Node.inherited_isDir.keeps_set_new h.free fun _ hd _ _ => Node.isDir_put.trans hd

/-- The name under which the log stands is that of a log. -/
theorem suffix_name (h : d.NewLog log) {name : String}
    (hname : log.location.getLast? = some name) : Log.suffix <:+ name.toList := by
  obtain ⟨-, seg, hseg, hlast⟩ := resolve_free h.resolve_eq
  obtain ⟨front, hfront⟩ := h.suffix
  obtain ⟨parts, last, hparts⟩ := Text.exists_splitAtChar_append '/' front
  specialize hparts Log.suffix (by decide)
  have hne : (last ++ Log.suffix).isEmpty = false := by simp [Log.suffix]
  have hsteps : log.path.steps.getLast? = some (last ++ Log.suffix) := by
    rw [Path.steps, ← hfront, hparts, List.filter_append,
      List.filter_cons_of_pos (by rw [hne]; rfl), List.filter_nil, List.getLast?_concat]
  obtain rfl := Option.some.inj (hsteps.symm.trans hseg)
  obtain rfl := Option.some.inj (hlast.symm.trans hname)
  rw [String.toList_ofList]
  exact List.suffix_append _ _

theorem not_endsIn_slash (h : d.NewLog log) : ¬Text.endsIn '/' log.path.text.toList := by
  obtain ⟨front, hfront⟩ := h.suffix
  rw [← hfront]
  simp [Text.endsIn, Log.suffix]

/-- The log is read by its path. -/
theorem read_put (h : d.NewLog log) (content : List UInt8) :
    (d.put log.location (.file content)).read log.path = .ok content := by
  have hthere := (h.get?_put content log.location content).2 (.inl ⟨rfl, rfl⟩)
  have hresolve := resolve_of_keepsDirs (h.keepsDirs_put content) h.resolve_eq hthere
    fun hend => absurd hend h.not_endsIn_slash
  rw [read, hresolve]

end NewLog

end Disk

end StyleAudit
