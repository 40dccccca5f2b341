import Mathlib.Tactic.IntervalCases
import StyleAudit.Proofs.Audit.Outcome
import StyleAudit.Proofs.Log.FreeName

/-!
# Logs of a series of audits

Audits add to a disk and take nothing away: a directory stays one, and a file too, though more may
be written to it (`Disk.Persists`).  A path at which something stands therefore leads to something
ever after, and a log is only created at a path that leads to nothing.  So of all the logs that are
created on a disk one after the other, whatever is added in between, no two have the same path or
the same location (`Disk.Logging.nodup`), and audits create their logs in this way as long as their
checks take nothing away either (`Auditor.exists_logging`).  `Disk.createLogIn_fresh` says this of
every disk, together with what the creation of one log comes to.
-/

namespace StyleAudit

namespace Disk

/-- What stands on a disk still stands on another one. -/
structure Persists (d d' : Disk) : Prop where
  /-- The working directory is the same. -/
  cwd_eq : d'.cwd = d.cwd
  /-- Directories are directories, and files are files. -/
  keeps : d.root.Keeps (fun x x' => x'.isDir = x.isDir) d'.root

variable {d d' d'' : Disk} {p : Path} {log : Log} {logs : List Log}

theorem respected_kind : Respected fun x x' => x'.isDir = x.isDir where
  refl _ := rfl
  put _ _ := Node.isDir_put
  trans h h' := h'.trans h
  create _ _ := Node.isDir_put
  share _ _ := rfl

namespace Persists

theorem refl (d : Disk) : d.Persists d := ⟨rfl, respected_kind.keeps_refl d.root⟩

theorem trans (h : d.Persists d') (h' : d'.Persists d'') : d.Persists d'' :=
  ⟨h'.cwd_eq.trans h.cwd_eq, h.keeps.trans respected_kind.trans h'.keeps⟩

theorem keepsDirs (h : d.Persists d') : d.KeepsDirs d' where
  cwd_eq := h.cwd_eq
  keeps location x hx :=
    let ⟨x', hx', hkind⟩ := h.keeps location x hx
    ⟨x', hx', fun hd => hkind.trans hd⟩

theorem get?_isSome (h : d.Persists d') {location : List String}
    (hx : (d.root.get? location).isSome) : (d'.root.get? location).isSome := by
  obtain ⟨x, hx⟩ := Option.isSome_iff_exists.1 hx
  obtain ⟨x', hx', -⟩ := h.keeps location x hx
  rw [hx']
  rfl

/-- What a path leads to is not lost. -/
theorem contains (h : d.Persists d') (hp : d.contains p) : d'.contains p := by
  obtain ⟨location, x, hresolve⟩ := contains_iff.1 hp
  obtain ⟨x', hx', hkind⟩ := h.keeps location x (resolve_node hresolve)
  exact contains_iff.2 ⟨location, x', h.keepsDirs.resolve hresolve hx' fun hd => hkind.trans hd⟩

end Persists

theorem Prepares.persists (h : d.Prepares d') : d.Persists d' := ⟨h.cwd_eq, h.keeps respected_kind⟩

namespace NewLog

theorem persists_put (h : d.NewLog log) (content : List UInt8) :
    d.Persists (d.put log.location (.file content)) where
  cwd_eq := rfl
  keeps := respected_kind.keeps_set_new h.free fun _ _ _ => Node.isDir_put

/-- More may be written to a log once it is there. -/
theorem persists_put_put (h : d.NewLog log) (content more : List UInt8) :
    (d.put log.location (.file content)).Persists (d.put log.location (.file more)) where
  cwd_eq := rfl
  keeps := by
    have hthere := (h.get?_put content log.location content).2 (.inl ⟨rfl, rfl⟩)
    rw [← h.put_put (.file content) (.file more)]
    refine respected_kind.keeps_set hthere fun below x hx => ?_
    cases below with
    | nil =>
      obtain rfl := Option.some.inj hx
      exact ⟨_, rfl, rfl⟩
    | cons a names =>
      rw [Node.get?_file_cons] at hx
      cases hx

theorem not_contains (h : d.NewLog log) : ¬d.contains log.path := by
  rw [Disk.contains, lookup?, h.resolve_eq]
  exact Bool.false_ne_true

theorem contains_put (h : d.NewLog log) (content : List UInt8) :
    (d.put log.location (.file content)).contains log.path := by
  have hthere := (h.get?_put content log.location content).2 (.inl ⟨rfl, rfl⟩)
  exact contains_iff.2 ⟨_, _, resolve_of_keepsDirs (h.keepsDirs_put content) h.resolve_eq hthere
    fun hend => absurd hend h.not_endsIn_slash⟩

end NewLog

/-! ### Logs one after the other -/

/-- Logs that are created one after the other, with anything added in between. -/
inductive Logging : Disk → List Log → Prop
  /-- No log is created. -/
  | stop (d : Disk) : Logging d []
  /-- A log is created, in some directory, for some stem and at some time. -/
  | create {d d' : Disk} {dir : Path} {stem : String} {now : Moment} {log : Log}
      {logs : List Log} :
      d.createLogIn dir stem now = .ok (log, d') → Logging d' logs → Logging d (log :: logs)
  /-- Something is added that is no log. -/
  | add {d d' : Disk} {logs : List Log} : d.Persists d' → Logging d' logs → Logging d logs

/-- A log that is not on a disk yet. -/
structure Unseen (d : Disk) (log : Log) : Prop where
  /-- Its path leads to nothing. -/
  path : ¬d.contains log.path
  /-- Nothing is at its location. -/
  location : d.root.get? log.location = none

theorem Unseen.of_persists (h : d'.Unseen log) (hd : d.Persists d') : d.Unseen log where
  path := mt hd.contains h.path
  location := Option.not_isSome_iff_eq_none.1 fun hx => by
    have hx' := hd.get?_isSome hx
    rw [h.location] at hx'
    cases hx'

theorem createLogIn_unseen {dir : Path} {stem : String} {now : Moment}
    (h : d.createLogIn dir stem now = .ok (log, d')) :
    d.Unseen log ∧ d.Persists d' ∧ d'.contains log.path ∧ (d'.root.get? log.location).isSome := by
  obtain ⟨hnew, rfl⟩ := createLogIn_newLog h
  refine ⟨⟨hnew.not_contains, hnew.free.1⟩, hnew.persists_put [], hnew.contains_put [], ?_⟩
  rw [(hnew.get?_put [] log.location []).2 (.inl ⟨rfl, rfl⟩)]
  rfl

/-- Logs are not on the disk before they are created. -/
theorem Logging.unseen (h : d.Logging logs) : ∀ log ∈ logs, d.Unseen log := by
  induction h with
  | stop => simp
  | create hlog _ ih =>
    obtain ⟨hunseen, hpersists, -⟩ := createLogIn_unseen hlog
    intro log hmem
    rcases List.mem_cons.1 hmem with rfl | hmem
    · exact hunseen
    · exact (ih log hmem).of_persists hpersists
  | add hpersists _ ih => exact fun log hmem => (ih log hmem).of_persists hpersists

/-- **Logs never collide.**  No two logs have the same path or the same location. -/
theorem Logging.nodup (h : d.Logging logs) :
    (logs.map (·.path)).Nodup ∧ (logs.map (·.location)).Nodup := by
  induction h with
  | stop => exact ⟨List.nodup_nil, List.nodup_nil⟩
  | create hlog hlater ih =>
    obtain ⟨-, -, hpath, hlocation⟩ := createLogIn_unseen hlog
    refine ⟨List.nodup_cons.2 ⟨fun hmem => ?_, ih.1⟩, List.nodup_cons.2 ⟨fun hmem => ?_, ih.2⟩⟩
    · obtain ⟨later, hlater', heq⟩ := List.mem_map.1 hmem
      exact (hlater.unseen later hlater').path (heq ▸ hpath)
    · obtain ⟨later, hlater', heq⟩ := List.mem_map.1 hmem
      dsimp only at heq
      rw [← heq, (hlater.unseen later hlater').location] at hlocation
      cases hlocation
  | add _ _ ih => exact ih

end Disk

/-! ### Audits -/

namespace Auditor

/-- The logs of audits that are made one after the other, each with its auditor and its clock; those
that fail leave none. -/
def logs (d : Disk) : List (Auditor × Clock × Path) → List Path
  | [] => []
  | (a, clock, source) :: rest =>
    match a.run d clock source with
    | (.ok outcome, d') => outcome.log :: logs d' rest
    | (.error _, d') => logs d' rest

/-- In audits that are made one after the other, the checks take nothing away from the disk that
they find. -/
def Accretive (d : Disk) : List (Auditor × Clock × Path) → Prop
  | [] => True
  | (a, clock, source) :: rest =>
    (∀ doc, d.load source = .ok doc → d.Persists (a.examine d doc).2) ∧
      Accretive (a.run d clock source).2 rest

theorem accretive_of_checksKeep (d : Disk) {runs : List (Auditor × Clock × Path)}
    (h : ∀ r ∈ runs, r.1.ChecksKeep Disk.Persists) : Accretive d runs := by
  induction runs generalizing d with
  | nil => trivial
  | cons r rest ih =>
    exact ⟨fun doc _ => h r List.mem_cons_self d doc,
      ih _ fun r hr => h r (List.mem_cons_of_mem _ hr)⟩

/-- Audits whose checks take nothing away create their logs one after the other. -/
theorem exists_logging (d : Disk) {runs : List (Auditor × Clock × Path)} (h : Accretive d runs) :
    ∃ created, d.Logging created ∧ created.map (·.path) = logs d runs := by
  -- the disk changes from audit to audit, also in those that fail
  induction runs generalizing d with
  | nil => exact ⟨[], .stop d, rfl⟩
  | cons r rest ih =>
    obtain ⟨a, clock, source⟩ := r
    obtain ⟨hchecks, hrest⟩ := h
    rw [logs]
    cases hload : d.load source with
    | error e =>
      rw [run_of_load_error hload] at hrest ⊢
      exact ih d hrest
    | ok doc =>
      rcases hexamine : a.examine d doc with ⟨report, d₀⟩
      have hchecks : d.Persists d₀ := by
        have hpersists := hchecks doc hload
        rwa [hexamine] at hpersists
      cases report with
      | none =>
        rw [run_of_examine_none hload hexamine] at hrest ⊢
        obtain ⟨created, hcreated, heq⟩ := ih d₀ hrest
        exact ⟨created, .add hchecks hcreated, heq⟩
      | some report =>
        rcases hlog : d₀.createLog a.settings.general source (clock 0) with ⟨e | log, d'⟩
        · rw [run_of_createLog_error hload hexamine hlog] at hrest ⊢
          obtain ⟨created, hcreated, heq⟩ := ih d' hrest
          have hprep := Disk.createLog_error hlog
          exact ⟨created, .add (hchecks.trans hprep.persists) hcreated, heq⟩
        · obtain ⟨d₁, hprep, hcreate⟩ := Disk.exists_createLogIn hlog
          obtain ⟨hnew, rfl⟩ := Disk.createLogIn_newLog hcreate
          rw [run_of_createLog hload hexamine hnew hlog] at hrest ⊢
          obtain ⟨created, hcreated, heq⟩ := ih _ hrest
          exact ⟨log :: created, .add (hchecks.trans hprep.persists) (.create hcreate
            (.add (hnew.persists_put_put [] _) hcreated)), congrArg (log.path :: ·) heq⟩

end Auditor

namespace Disk

open Log

/-! ### Every run, and every series of them -/

/-- **Log names never collide.**  The search ends at the least number whose name is free.  The log
is created under it, as the only new file, and all others are what they were; if the system refuses
it, that is not because the name is taken.  In a directory that takes new files, a name is free
unless an entry has it.  All logs that are created one after the other differ in their paths and
locations, and so do the logs of any series of audits whose checks take nothing away from the disk
that they find.  Without search for leaks, checks take nothing away unless the preprocessor does. -/
theorem createLogIn_fresh (d : Disk) (dir : Path) (stem : String) (now : Moment) :
    let name (taken : Nat) : String := "Logs-" ++ stem ++ "-at-" ++ now.nameText ++
      (if taken = 0 then "" else "-" ++ toString taken) ++ ".log"
    (∃ free ≤ d.neighbours (dir.join (name 0)),
      IsLeast {taken | ¬d.contains (dir.join (name taken))} free ∧
      (∀ e, d.createFile (dir.join (name free)) = .error e → e ≠ .present ∧
        d.createLogIn dir stem now =
          .error (e.during "create log file" (dir.join (name free)))) ∧
      ∀ location d', d.createFile (dir.join (name free)) = .ok (location, d') →
        d.createLogIn dir stem now = .ok (⟨dir.join (name free), location⟩, d') ∧
        d.root.get? location = none ∧
        ∀ there bytes, d'.root.get? there = some (.file bytes) ↔
          (there = location ∧ bytes = []) ∨ d.root.get? there = some (.file bytes)) ∧
    ('/' ∉ stem.toList →
      (∀ taken ≤ d.neighbours (dir.join (name 0)), ∀ e,
        d.createFile (dir.join (name taken)) = .error e → e = .present) →
      ∃ above shared entries, d.Leads (d.startOf dir) dir.steps above ∧
        d.root.get? above = some (.dir shared entries) ∧
        ∃ free, IsLeast {taken | name taken ∉ entries.map Prod.fst} free ∧
          d.createLogIn dir stem now =
            .ok (⟨dir.join (name free), above ++ [name free]⟩,
              d.put (above ++ [name free]) (.file []))) ∧
    (∀ logs, d.Logging logs →
      (logs.map (·.path)).Nodup ∧ (logs.map (·.location)).Nodup) ∧
    (∀ runs, Auditor.Accretive d runs → (Auditor.logs d runs).Nodup) ∧
    ∀ runs : List (Auditor × Clock × Path),
      (∀ r ∈ runs, ∃ (s : Settings) (tools : Tools) (buildDir : Path)
          (transport : Option Transport),
        r.1 = { Auditor.ofSettings s tools buildDir with transport } ∧
          s.leakCheck.enabled = false ∧
          (s.naming.preprocess → ∀ disk call output left,
            tools.call disk call = .ok (output, left) → disk.Persists left)) →
        Auditor.Accretive d runs := by
  intro name
  -- the names in the statement are those of the model, which the lemmas are about
  have hname : name = fileName stem now := rfl
  clear_value name
  subst hname
  refine ⟨?_, createLogIn_entries, fun _ => Logging.nodup, fun runs haccretive => ?_,
    fun runs hruns => Auditor.accretive_of_checksKeep d fun r hr => ?_⟩
  · obtain ⟨free, hbound, hleast, hcreate⟩ := createLogIn_eq d dir stem now
    refine ⟨free, hbound, hleast, fun e he => ⟨?_, ?_⟩, fun location d' hp => ?_⟩
    · rintro rfl
      exact hleast.1 (createFile_eq_present_iff.1 he)
    · rw [hcreate, logAt, candidate, he]
    · have hlog : d.createLogIn dir stem now =
          .ok (⟨candidate dir stem now free, location⟩, d') := by
        rw [hcreate, logAt, candidate, hp]
      obtain ⟨hnew, rfl⟩ := createLogIn_newLog hlog
      exact ⟨hlog, hnew.free.1, hnew.get?_put []⟩
  · obtain ⟨created, hcreated, heq⟩ := Auditor.exists_logging d haccretive
    exact heq ▸ hcreated.nodup.1
  · obtain ⟨s, tools, buildDir, transport, ha, hl, htools⟩ := hruns r hr
    rw [ha]
    exact Auditor.checksKeep_ofSettings .refl .trans hl htools buildDir transport

/-- Noon of the first of February. -/
def noon : Moment := ⟨2024, 2, 1, 12, 0, 0, 0⟩

/-- A disk with a source where two names for a log are taken. -/
def twoLogs : Disk :=
  ⟨.dir false [("main.c", .file [10]), ("Logs", .dir false
    [("Logs-main-at-12-00-00-on-01-02-2024.log", .file [10]),
      ("Logs-main-at-12-00-00-on-01-02-2024-1.log", .file [])])], []⟩

theorem createLogIn_fresh_twoLogs :
    let name (taken : Nat) : String := "Logs-main-at-12-00-00-on-01-02-2024" ++
      (if taken = 0 then "" else "-" ++ toString taken) ++ ".log"
    let third := "Logs-main-at-12-00-00-on-01-02-2024-2.log"
    let d := twoLogs.put ["Logs", third] (.file [])
    let log : Log := ⟨⟨"Logs/Logs-main-at-12-00-00-on-01-02-2024-2.log"⟩, ["Logs", third]⟩
    twoLogs.createLogIn ⟨"Logs"⟩ "main" noon = .ok (log, d) ∧
    (∀ there bytes, d.root.get? there = some (.file bytes) ↔
      (there = ["Logs", third] ∧ bytes = []) ∨ twoLogs.root.get? there = some (.file bytes)) ∧
    (∃ above shared entries, twoLogs.Leads [] [['L', 'o', 'g', 's']] above ∧
      twoLogs.root.get? above = some (.dir shared entries) ∧
      ∃ free, IsLeast {taken | name taken ∉ entries.map Prod.fst} free ∧
        twoLogs.createLogIn ⟨"Logs"⟩ "main" noon =
          .ok (⟨(Path.mk "Logs").join (name free), above ++ [name free]⟩,
            twoLogs.put (above ++ [name free]) (.file []))) ∧
    (∀ next d', d.createLogIn ⟨"Logs"⟩ "main" noon = .ok (next, d') →
      ([log, next].map (·.path)).Nodup) ∧
    ∀ tools clock, let auditor := Auditor.ofSettings {} tools ⟨"/tmp"⟩
      (Auditor.logs twoLogs
        [(auditor, clock, ⟨"main.c"⟩), (auditor, clock, ⟨"main.c"⟩)]).Nodup := by
  intro name third d log
  have hname : name = fun taken => "Logs-" ++ "main" ++ "-at-" ++ noon.nameText ++
      (if taken = 0 then "" else "-" ++ toString taken) ++ ".log" := by
    have hhead : "Logs-" ++ "main" ++ "-at-" ++ noon.nameText =
        "Logs-main-at-12-00-00-on-01-02-2024" := by decide
    rw [hhead]
  rw [hname]
  obtain ⟨⟨free, -, hleast, -, hok⟩, hentries, hlogs, hruns, hkeeps⟩ :=
    createLogIn_fresh twoLogs ⟨"Logs"⟩ "main" noon
  -- the first two names are taken
  have hfree : free = 2 := by
    refine hleast.unique ⟨by decide, fun taken htaken => ?_⟩
    by_contra hlt
    have hlt : taken < 2 := Nat.not_le.1 hlt
    interval_cases taken
    · exact htaken rfl
    · exact htaken rfl
  subst hfree
  obtain ⟨hcreate, -, hfiles⟩ := hok ["Logs", third] d rfl
  refine ⟨hcreate, hfiles, hentries (by decide) fun taken htaken e he => ?_,
    fun next d' hnext => (hlogs [log, next] (.create hcreate (.create hnext (.stop d')))).1,
    fun tools clock => hruns _ (hkeeps _ fun r hr => ?_)⟩
  · have hle : taken ≤ 2 := htaken
    interval_cases taken <;> cases he <;> rfl
  · have hauditor : r.1 = Auditor.ofSettings {} tools ⟨"/tmp"⟩ := by
      simp only [List.mem_cons, List.not_mem_nil, or_false, or_self] at hr
      rw [hr]
    exact ⟨{}, tools, ⟨"/tmp"⟩, none, hauditor, rfl, fun hp => by cases hp⟩

end Disk

end StyleAudit
