import StyleAudit.Command.Run
import StyleAudit.Proofs.Audit.Outcome
import StyleAudit.Proofs.Collection.Search

/-!
# Stability of audits

Audits write into the trees that are searched for sources: directories beside the sources, or where
the settings say, and logs in them.  Nothing of it is found by a later search.  An audit leaves
every directory a directory with the same sources and every file as it is, if its checks do
(`Auditor.run_undisturbed`); on such a disk paths lead to where they led and stand for the same
sources (`Disk.Undisturbed.expand`).  So audits, in whatever number and order and whether or not
they fail, do not change what is to be audited (`Auditor.expand_after`).  Checks leave the disk
alone if the settings ask for no preprocessor and no search for leaks; with them, it is up to the
tools (`Auditor.checksKeep_ofSettings`).
-/

namespace StyleAudit

namespace Disk

/-- Where something stood, something alike stands, and the working directory is the same. -/
structure Undisturbed (d d' : Disk) : Prop where
  /-- The working directory is the same. -/
  cwd_eq : d'.cwd = d.cwd
  /-- What stood there is alike. -/
  keeps : d.root.Keeps Node.Alike d'.root

namespace Undisturbed

variable {d d' d'' : Disk} {p : Path} {x : Node}

theorem refl (d : Disk) : d.Undisturbed d := ⟨rfl, respected_alike.keeps_refl d.root⟩

theorem trans (h : d.Undisturbed d') (h' : d'.Undisturbed d'') : d.Undisturbed d'' :=
  ⟨h'.cwd_eq.trans h.cwd_eq, h.keeps.trans respected_alike.trans h'.keeps⟩

theorem keepsDirs (h : d.Undisturbed d') : d.KeepsDirs d' where
  cwd_eq := h.cwd_eq
  keeps location x hx :=
    let ⟨x', hx', halike⟩ := h.keeps location x hx
    ⟨x', hx', halike.isDir⟩

/-- Files keep their bytes. -/
theorem get?_file (h : d.Undisturbed d') {location : List String} {bytes : List UInt8}
    (hfile : d.root.get? location = some (.file bytes)) :
    d'.root.get? location = some (.file bytes) := by
  obtain ⟨x', hx', halike⟩ := h.keeps location _ hfile
  rw [hx', halike.file rfl]

/-- A path that leads to something leads to something alike. -/
theorem resolve (h : d.Undisturbed d') {location : List String}
    (hp : d.resolve p = .ok (location, some x)) :
    ∃ x', d'.resolve p = .ok (location, some x') ∧ x.Alike x' := by
  obtain ⟨x', hx', halike⟩ := h.keeps location x (resolve_node hp)
  exact ⟨x', h.keepsDirs.resolve hp hx' halike.isDir, halike⟩

theorem collect (h : d.Undisturbed d') {found : List Path} (hp : d.collect p = .ok found) :
    d'.collect p = .ok found := by
  rw [Disk.collect] at hp
  split at hp
  · cases hp
  · cases hp
  · next hresolve =>
    obtain ⟨x', hx', halike⟩ := h.resolve hresolve
    rw [Disk.collect, hx']
    dsimp only
    rw [halike.sources, hp]

theorem standsFor (h : d.Undisturbed d') {found : List Path} (hp : d.StandsFor p found) :
    d'.StandsFor p found := by
  cases hp with
  | file hfile =>
    obtain ⟨location, bytes, hp⟩ := isFile_iff.1 hfile
    obtain ⟨x', hx', halike⟩ := h.resolve hp
    rw [halike.file rfl] at hx'
    exact .file (isFile_iff.2 ⟨location, bytes, hx'⟩)
  | dir hdir hfound =>
    obtain ⟨location, x, hp, hd⟩ := isDir_iff.1 hdir
    obtain ⟨x', hx', halike⟩ := h.resolve hp
    exact .dir (isDir_iff.2 ⟨location, x', hx', halike.isDir hd⟩) (h.collect hfound)

/-- Paths stand for the same sources. -/
theorem expand (h : d.Undisturbed d') {paths files : List Path} (hp : d.expand paths = .ok files) :
    d'.expand paths = .ok files := by
  obtain ⟨parts, hparts, rfl⟩ := expand_eq_ok_iff.1 hp
  exact expand_eq_ok_iff.2 ⟨parts, hparts.imp fun _ _ => h.standsFor, rfl⟩

end Undisturbed

theorem Prepares.undisturbed {d d' : Disk} (h : d.Prepares d') : d.Undisturbed d' :=
  ⟨h.cwd_eq, h.keeps respected_alike⟩

theorem NewLog.undisturbed_put {d : Disk} {log : Log} (h : d.NewLog log) (content : List UInt8) :
    d.Undisturbed (d.put log.location (.file content)) where
  cwd_eq := rfl
  keeps := Node.inherited_alike.keeps_set_new h.free fun hname hd hc =>
    Node.alike_put_new hd hc fun path => Node.sources_log (h.suffix_name hname) content path

end Disk

namespace Auditor

/-- The disk after audits of sources one after the other, each with its clock, whatever they come
to. -/
def after (a : Auditor) (d : Disk) : List (Clock × Path) → Disk
  | [] => d
  | (clock, path) :: rest => a.after (a.run d clock path).2 rest

theorem run_undisturbed {a : Auditor} (ha : a.ChecksKeep Disk.Undisturbed) (d : Disk)
    (clock : Clock) (path : Path) : d.Undisturbed (a.run d clock path).2 := by
  obtain ⟨d₀, d', hchecks, hprep, hrun⟩ := a.run_disk_cases d clock path
  have hd' : d.Undisturbed d' := by
    obtain rfl | ⟨doc, rfl⟩ := hchecks
    · exact hprep.undisturbed
    · exact (ha d doc).trans hprep.undisturbed
  obtain hrun | ⟨log, content, hnew, hrun⟩ := hrun
  · rw [hrun]
    exact hd'
  · rw [hrun]
    exact hd'.trans (hnew.undisturbed_put content)

theorem after_undisturbed {a : Auditor} (ha : a.ChecksKeep Disk.Undisturbed) (d : Disk)
    (runs : List (Clock × Path)) : d.Undisturbed (a.after d runs) := by
  induction runs generalizing d with
  | nil => exact .refl d
  | cons r rest ih => exact (run_undisturbed ha d r.1 r.2).trans (ih _)

/-- A series of audits that ends at the first failure is one of audits. -/
theorem exists_runAll_eq_after (a : Auditor) (clocks : Nat → Clock) (d : Disk)
    (done : List Outcome) (paths : List Path) :
    ∃ runs, (a.runAll clocks d done paths).2 = a.after d runs := by
  induction paths generalizing d done with
  | nil => exact ⟨[], rfl⟩
  | cons p rest ih =>
    rcases hrun : a.run d (clocks done.length) p with ⟨e | o, d'⟩
    · refine ⟨[(clocks done.length, p)], ?_⟩
      rw [runAll, hrun, after, hrun, after]
    · obtain ⟨runs, hruns⟩ := ih d' (done ++ [o])
      refine ⟨(clocks done.length, p) :: runs, ?_⟩
      rw [runAll, hrun, after, hrun]
      exact hruns

/-- **Audits do not change what is to be audited.**  Let paths stand for sources.  After audits of
these or any sources, in any number and order, with any settings for the logs, at any time and
whether or not they fail, the paths stand for the same sources, and every file from before has its
bytes.  So it is, too, after the series in which the sources are audited one by one.  Nothing is
asked of the checks but that they do not disturb the disk themselves, which those of settings
without preprocessor and search for leaks do not. -/
theorem expand_after {d : Disk} {paths files : List Path} (h : d.expand paths = .ok files) :
    (∀ a : Auditor, a.ChecksKeep Disk.Undisturbed →
      (∀ runs, (a.after d runs).expand paths = .ok files ∧
        ∀ location bytes, d.root.get? location = some (.file bytes) →
          (a.after d runs).root.get? location = some (.file bytes)) ∧
      ∀ clocks done, (a.runAll clocks d done files).2.expand paths = .ok files ∧
        ∀ location bytes, d.root.get? location = some (.file bytes) →
          (a.runAll clocks d done files).2.root.get? location = some (.file bytes)) ∧
    ∀ (s : Settings) (tools : Tools) (buildDir : Path) (transport : Option Transport),
      s.naming.preprocess = false → s.leakCheck.enabled = false →
        ({ ofSettings s tools buildDir with transport } : Auditor).ChecksKeep
          Disk.Undisturbed := by
  refine ⟨fun a ha => ?_, fun s tools buildDir transport hp hl => ?_⟩
  · have hafter : ∀ runs, (a.after d runs).expand paths = .ok files ∧
        ∀ location bytes, d.root.get? location = some (.file bytes) →
          (a.after d runs).root.get? location = some (.file bytes) := by
      intro runs
      have hd := after_undisturbed ha d runs
      exact ⟨hd.expand h, fun _ _ => hd.get?_file⟩
    refine ⟨hafter, fun clocks done => ?_⟩
    obtain ⟨runs, hruns⟩ := a.exists_runAll_eq_after clocks d done files
    rw [hruns]
    exact hafter runs
  · exact checksKeep_ofSettings .refl .trans hl (fun h => absurd h (by simp [hp])) buildDir
      transport

/-- A tree with a source and what an earlier audit left behind. -/
def auditedTree : Node :=
  .dir false [("main.c", .file [10]), ("Logs", .dir false [("old.c", .file [])])]

/-- A disk with that tree. -/
def auditedDisk : Disk := ⟨.dir false [("src", auditedTree)], []⟩

/-- An auditor that writes its logs into the tree, in a directory with the name of a source. -/
def nested : Auditor :=
  .ofSettings { general := { logsDir := some ⟨"src/out.c"⟩, sharedLogs := true } }
    (fun _ _ => .error (.file .missing)) ⟨"/tmp"⟩

theorem expand_after_nested :
    auditedDisk.expand [⟨"src"⟩] = .ok [⟨"src/main.c"⟩] ∧
      ∀ first second,
        (nested.after auditedDisk [(first, ⟨"src/main.c"⟩), (second, ⟨"src/main.c"⟩)]).expand
          [⟨"src"⟩] = .ok [⟨"src/main.c"⟩] := by
  have hjoin : (Path.mk "src").join "main.c" = ⟨"src/main.c"⟩ := by rfl
  have hsource : (Path.mk "src/main.c").isSource = true := by decide +kernel
  have hsources : auditedTree.sources ⟨"src"⟩ "src" = [⟨"src/main.c"⟩] := by
    rw [auditedTree, Node.sources, if_neg (by decide), flatten_sortByName]
    simp [entrySources, Node.sources, hjoin, hsource, logDirName, sortByName]
  have hd : auditedDisk.expand [⟨"src"⟩] = .ok [⟨"src/main.c"⟩] := by
    have hresolve : auditedDisk.resolve ⟨"src"⟩ = .ok (["src"], some auditedTree) := by rfl
    have hname : (((Path.mk "src").fileName?.map String.ofList).getD "src") = "src" := by rfl
    rw [Disk.expand, Disk.expand, Disk.isDir, Disk.lookup?, Disk.collect, hresolve]
    simp only [hname, hsources]
    rfl
  obtain ⟨hafter, hkeeps⟩ := expand_after hd
  have hnested : nested.ChecksKeep Disk.Undisturbed := hkeeps _ _ _ none rfl rfl
  exact ⟨hd, fun first second => ((hafter nested hnested).1 _).1⟩

end Auditor

end StyleAudit
