import Mathlib.Data.List.Infix
import StyleAudit.Proofs.Disk.Joined
import StyleAudit.Proofs.Settings.Accepted

/-!
# The nearest settings

Settings may stand under three names in the working directory and in each directory above it
(`Settings.candidates_eq`, `Disk.resolve_candidate`).  The search stops at the first of these files
that exists, whether or not it is of any use (`Disk.firstSettings_append`), and finds nothing only
if none of them exists (`Disk.firstSettings_eq_none_iff`).  What comes of that file follows from its
bytes alone (`Settings.Verdict`), so that nothing else on the disk matters to it.  A file that is
named is treated alike, but it must exist (`Disk.loadSettings_nearest`).
-/

namespace StyleAudit

namespace Settings

variable {location : List String}

/-! ### Candidates -/

theorem upwards_eq (above : List String) : upwards above = above.reverse.inits.reverse := by
  rw [List.inits_reverse, List.reverse_reverse]
  induction above with
  | nil => rfl
  | cons name above ih => rw [upwards, ih, List.tails_cons, List.map_cons]

/-- The candidates are in the directories at the prefixes of the location, the longest first. -/
theorem candidates_eq (location : List String) :
    candidates location =
      location.inits.reverse.flatMap fun l => fileNames.map (directory l).join := by
  rw [candidates, upwards_eq, List.reverse_reverse]

theorem isName_of_mem_fileNames {name : String} (h : name ∈ fileNames) :
    Path.IsName name.toList ∧ name.utf8ByteSize ≤ Disk.maxName := by
  revert h name
  decide

/-- The names on the way to a directory are the segments of its path. -/
theorem steps_directory (h : ∀ name ∈ location, Path.IsName name.toList) :
    (directory location).steps = location.map String.toList := by
  have hsteps : Path.stepsOf (String.intercalate "/" location).toList =
      location.map String.toList := by
    induction location with
    | nil => rfl
    | cons name rest ih =>
      obtain ⟨hname, hrest⟩ := List.forall_mem_cons.1 h
      cases rest with
      | nil => exact hname.steps_eq
      | cons next rest =>
        rw [String.intercalate_cons_cons, String.toList_append, String.toList_append,
          List.append_assoc, List.map_cons, ← ih hrest]
        exact (Path.stepsOf_append_slash _ _).trans (congrArg (· ++ _) hname.steps_eq)
  rw [Path.steps_eq, directory, String.toList_append, ← hsteps]
  exact Path.stepsOf_append_slash [] _

/-! ### What comes of a file -/

/-- What comes of a file with settings, by what reading its bytes returns. -/
inductive Verdict (p : Path) : Except DiskError (List UInt8) → Except Failure Settings → Prop
  /-- It cannot be read. -/
  | unreadable (e : DiskError) : Verdict p (.error e) (.error (e.during "read config file" p))
  /-- It is no text. -/
  | undecodable {bytes : List UInt8} : Utf8.decode? bytes = none →
      Verdict p (.ok bytes) (.error (.io "read config file" (some p)
        (some "stream did not contain valid UTF-8")))
  /-- Its text holds no settings. -/
  | unparsable {bytes : List UInt8} {text : List Char} {problem : Problem} :
      Utf8.decode? bytes = some text → parse text = .error problem →
      Verdict p (.ok bytes) (.error (.settings problem.message (some p) none))
  /-- Its thresholds are unusable. -/
  | rejected {bytes : List UInt8} {text : List Char} {s : Settings} {e : Failure} :
      Utf8.decode? bytes = some text → parse text = .ok s → s.thresholds.validate = .error e →
      Verdict p (.ok bytes) (.error e)
  /-- Its settings are taken. -/
  | accepted {bytes : List UInt8} {text : List Char} {s : Settings} :
      Utf8.decode? bytes = some text → parse text = .ok s → s.thresholds.validate = .ok () →
      Verdict p (.ok bytes) (.ok s)

theorem Verdict.unique {read : Except DiskError (List UInt8)}
    {first second : Except Failure Settings} (h : Verdict p read first)
    (h' : Verdict p read second) : first = second := by
  cases h <;> cases h' <;> simp_all

end Settings

namespace Disk

open Settings

variable {d d' : Disk} {p : Path} {front back : List Path}

/-- **Candidates by their locations.**  A candidate is the entry of its name in the directory that
it is searched for in. -/
theorem resolve_candidate {location : List String} {name : String} (hd : d.DirAt location)
    (hnames : ∀ a ∈ location, Path.IsName a.toList ∧ a.utf8ByteSize ≤ maxName)
    (hname : name ∈ fileNames) (husable : ((directory location).join name).Usable) :
    d.resolve ((directory location).join name) =
      .ok (location ++ [name], d.root.get? (location ++ [name])) := by
  obtain ⟨hisName, hsize⟩ := isName_of_mem_fileNames hname
  have hstart : d.startOf (directory location) = [] := by
    rw [startOf, Path.isAbsolute_eq, directory, String.toList_append]
    rfl
  refine (resolve_join _ hisName).2 ⟨husable, hsize, ?_, location, ?_, hd, rfl, rfl⟩
  · rw [hstart]
    exact hd.of_prefix (List.nil_prefix)
  · rw [hstart, steps_directory fun a ha => (hnames a ha).1]
    exact leads_names hnames (by rwa [List.nil_append])

/-- A file that is read has its verdict. -/
theorem verdict_readSettings (d : Disk) (p : Path) : Verdict p (d.read p) (d.readSettings p) := by
  simp only [readSettings, readText, bind, Except.bind]
  cases d.read p with
  | error e => exact .unreadable e
  | ok bytes =>
    dsimp only
    cases hdecode : Utf8.decode? bytes with
    | none => exact .undecodable hdecode
    | some text =>
      dsimp only
      cases hparse : parse text with
      | error problem => exact .unparsable hdecode hparse
      | ok s =>
        dsimp only [Except.mapError]
        cases hvalid : s.thresholds.validate with
        | error e => exact .rejected hdecode hparse hvalid
        | ok u => exact .accepted hdecode hparse hvalid

/-! ### The search -/

theorem settingsAt_of_contains (h : d.contains p) :
    d.settingsAt p = (d.readSettings p).map some := if_pos h

theorem settingsAt_of_not_contains (h : ¬d.contains p) : d.settingsAt p = .ok none := if_neg h

/-- Candidates that do not exist are passed over. -/
theorem firstSettings_append (h : ∀ q ∈ front, ¬d.contains q) (rest : List Path) :
    d.firstSettings (front ++ rest) = d.firstSettings rest := by
  induction front with
  | nil => rfl
  | cons q front ih =>
    obtain ⟨hq, h⟩ := List.forall_mem_cons.1 h
    rw [List.cons_append, firstSettings, settingsAt_of_not_contains hq]
    exact ih h

/-- A candidate that exists decides. -/
theorem firstSettings_of_contains (h : d.contains p) (rest : List Path) :
    d.firstSettings (p :: rest) = (d.readSettings p).map fun s => some (p, s) := by
  rw [firstSettings, settingsAt_of_contains h]
  cases d.readSettings p <;> rfl

/-- Nothing is found only if nothing is there. -/
theorem firstSettings_eq_none_iff {ps : List Path} :
    d.firstSettings ps = .ok none ↔ ∀ p ∈ ps, ¬d.contains p := by
  induction ps with
  | nil => simp [firstSettings]
  | cons q ps ih =>
    rw [List.forall_mem_cons]
    by_cases hq : d.contains q
    · rw [firstSettings_of_contains hq]
      cases d.readSettings q <;> simp [Except.map, hq]
    · rw [firstSettings, settingsAt_of_not_contains hq]
      exact ih.trans (and_iff_right hq).symm

theorem discoverSettings_eq (hcut : candidates d.cwd = front ++ p :: back)
    (hfront : ∀ q ∈ front, ¬d.contains q) (hp : d.contains p) :
    d.loadSettings none = (d.readSettings p).map fun s => some (p, s) := by
  rw [loadSettings, discoverSettings, hcut, firstSettings_append hfront,
    firstSettings_of_contains hp]

theorem namedSettings_of_contains (h : d.contains p) :
    d.loadSettings (some p) = (d.readSettings p).map fun s => some (p, s) := by
  rw [loadSettings, namedSettings, settingsAt_of_contains h]
  cases d.readSettings p <;> rfl

theorem namedSettings_of_not_contains (h : ¬d.contains p) :
    d.loadSettings (some p) =
      .error (.settings "Configuration file does not exist" (some p) none) := by
  rw [loadSettings, namedSettings, settingsAt_of_not_contains h]
  rfl

/-- What comes of a file is the same wherever it reads the same. -/
theorem readSettings_congr (h : d'.read p = d.read p) : d'.readSettings p = d.readSettings p :=
  Verdict.unique (d'.verdict_readSettings p) (h ▸ d.verdict_readSettings p)

/-- **The nearest settings decide.**  The candidates are the entries of the three names, in this
order, in the working directory and then in each directory above it.  Nothing is found iff none of
them exists.  Otherwise the verdict on the first one that does is the result, whatever the others
are; and the verdict on a file that is named is the result whatever else is on the disk, unless the
file does not exist, which is an error.  All settings that are returned have usable thresholds. -/
theorem loadSettings_nearest (d : Disk) :
    (candidates d.cwd = d.cwd.inits.reverse.flatMap fun l =>
      ["ScriptLint.toml", ".scriptlint.toml", "scriptlint.toml"].map (directory l).join) ∧
    (d.DirAt d.cwd → (∀ a ∈ d.cwd, Path.IsName a.toList ∧ a.utf8ByteSize ≤ maxName) →
      ∀ l, l <+: d.cwd → ∀ name ∈ fileNames, ((directory l).join name).Usable →
        d.resolve ((directory l).join name) = .ok (l ++ [name], d.root.get? (l ++ [name]))) ∧
    (d.loadSettings none = .ok none ↔ ∀ p ∈ candidates d.cwd, ¬d.contains p) ∧
    (∀ front p back, candidates d.cwd = front ++ p :: back →
      (∀ q ∈ front, ¬d.contains q) → d.contains p →
      (∃ result, Verdict p (d.read p) result ∧
        d.loadSettings none = result.map fun s => some (p, s)) ∧
      ∀ d' : Disk, d'.cwd = d.cwd → (∀ q ∈ front, ¬d'.contains q) → d'.contains p →
        d'.read p = d.read p → d'.loadSettings none = d.loadSettings none) ∧
    (∀ p, (¬d.contains p → d.loadSettings (some p) =
        .error (.settings "Configuration file does not exist" (some p) none)) ∧
      (d.contains p → ∃ result, Verdict p (d.read p) result ∧
        d.loadSettings (some p) = result.map fun s => some (p, s)) ∧
      ∀ d' : Disk, d'.contains p = d.contains p → d'.read p = d.read p →
        d'.loadSettings (some p) = d.loadSettings (some p)) ∧
    ∀ config p s, d.loadSettings config = .ok (some (p, s)) → s.thresholds.validate = .ok () := by
  refine ⟨candidates_eq _, ?_, firstSettings_eq_none_iff, ?_, fun p => ⟨?_, ?_, ?_⟩,
    fun _ _ _ => loadSettings_validate⟩
  · intro hd hnames l hl name hname husable
    exact resolve_candidate (hd.of_prefix hl) (fun a ha => hnames a (hl.subset ha)) hname husable
  · intro front p back hcut hfront hp
    have hload := discoverSettings_eq hcut hfront hp
    refine ⟨⟨_, d.verdict_readSettings p, hload⟩, fun d' hcwd hfront' hp' hread => ?_⟩
    rw [hload, ← readSettings_congr hread]
    exact discoverSettings_eq (hcwd ▸ hcut) hfront' hp'
  · exact namedSettings_of_not_contains
  · exact fun hp => ⟨_, d.verdict_readSettings p, namedSettings_of_contains hp⟩
  · intro d' hcontains hread
    by_cases hp : d.contains p
    · rw [namedSettings_of_contains hp, namedSettings_of_contains (hcontains.trans hp),
        readSettings_congr hread]
    · rw [namedSettings_of_not_contains hp, namedSettings_of_not_contains (hcontains ▸ hp)]

/-- Settings in a directory of sources. -/
def sourceSettings : List UInt8 := Utf8.encode "[thresholds]\nmin_functions = 7\n".toList

/-- A disk with such settings, and another file above them. -/
def shadowed (above : List UInt8) : Disk where
  root := .dir false [("ScriptLint.toml", .file above),
    ("src", .dir false [(".scriptlint.toml", .file sourceSettings)])]
  cwd := ["src"]

theorem read_shadowed (above : List UInt8) :
    (shadowed above).read ⟨"/src/.scriptlint.toml"⟩ = .ok sourceSettings := rfl

theorem loadSettings_nearest_shadowed :
    let d := shadowed [255]
    let p : Path := ⟨"/src/.scriptlint.toml"⟩
    d.resolve p = .ok (["src", ".scriptlint.toml"], d.root.get? ["src", ".scriptlint.toml"]) ∧
    (∃ result, Verdict p (d.read p) result ∧
      d.loadSettings none = result.map fun s => some (p, s)) ∧
    (shadowed []).loadSettings none = d.loadSettings none ∧
    (∃ result, Verdict ⟨"/ScriptLint.toml"⟩ (.ok [255]) result ∧
      d.loadSettings (some ⟨"/ScriptLint.toml"⟩) =
        result.map fun s => some (⟨"/ScriptLint.toml"⟩, s)) ∧
    d.loadSettings (some ⟨"/src/scriptlint.toml"⟩) =
      .error (.settings "Configuration file does not exist" (some ⟨"/src/scriptlint.toml"⟩) none) ∧
    ∃ s, d.loadSettings none = .ok (some (p, s)) ∧ s.thresholds.minFunctions = 7 ∧
      s.thresholds.validate = .ok () := by
  intro d p
  obtain ⟨-, hplaces, -, hnearest, hnamed, hvalid⟩ := loadSettings_nearest d
  have hcut : candidates d.cwd = [⟨"/src/ScriptLint.toml"⟩] ++ p :: [⟨"/src/scriptlint.toml"⟩,
      ⟨"/ScriptLint.toml"⟩, ⟨"/.scriptlint.toml"⟩, ⟨"/scriptlint.toml"⟩] := by decide
  obtain ⟨hload, hother⟩ := hnearest _ _ _ hcut (by decide) (by decide)
  refine ⟨?_, hload, hother (shadowed []) rfl (by decide) (by decide)
    ((read_shadowed _).trans (read_shadowed _).symm),
    (hnamed ⟨"/ScriptLint.toml"⟩).2.1 (by decide), (hnamed _).1 (by decide), ?_⟩
  · exact hplaces ⟨_, rfl, rfl⟩ (by decide) ["src"] (List.prefix_refl _) ".scriptlint.toml"
      (by decide) ⟨by decide, by decide, by decide⟩
  · have hmin : (d.loadSettings none).toOption.map
        (·.map fun r => (r.1, r.2.thresholds.minFunctions)) = some (some (p, 7)) := by
      decide +kernel
    cases hfound : d.loadSettings none with
    | error e => rw [hfound] at hmin; cases hmin
    | ok found =>
      cases found with
      | none => rw [hfound] at hmin; cases hmin
      | some r =>
        obtain ⟨q, s⟩ := r
        rw [hfound] at hmin
        injection hmin with hmin
        injection hmin with hmin
        injection hmin with hq hs
        dsimp only at hq hs
        subst hq
        exact ⟨s, rfl, hs, hvalid none p s hfound⟩

end Disk

end StyleAudit
