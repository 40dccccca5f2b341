import Mathlib.Data.List.Nodup
import Mathlib.Data.String.Basic
import StyleAudit.Proofs.Collection.Sources
import StyleAudit.Proofs.Disk.Joined

/-!
# Searching directories

The search for sources below a node finds those at its locations, which are lists of names
(`Node.SourceAt`).  It finds all of them, in the order of the lists, which is the order depth first
by name, as no file is above another one (`Node.WellFormed.exists_listed`).  Arguments stand for
what is found at each of them in turn (`Disk.StandsFor`), and the first one at which nothing is
makes the whole fail (`Disk.expand_eq_error_iff`).  `Disk.expand_exact` puts both together, and
spells out which files are found and where their paths lead.
-/

namespace StyleAudit

/-! ### Order of names -/

/-- Items with different names are in strict order once they are sorted. -/
theorem pairwise_sortByName {α : Type} {items : List (String × α)}
    (h : (items.map Prod.fst).Nodup) : (sortByName items).Pairwise fun a b => a.1 < b.1 := by
  have hsorted : (sortByName items).Pairwise fun a b =>
      (Path.compareChars a.1.toList b.1.toList).isLE := by
    refine List.pairwise_mergeSort ?_ ?_ items
    · exact fun _ _ _ => Path.compareChars_trans
    · exact fun a b => Path.compareChars_total a.1.toList b.1.toList
  have hne : (sortByName items).Pairwise fun a b => a.1 ≠ b.1 :=
    List.pairwise_map.1 (((List.mergeSort_perm items _).map Prod.fst).nodup_iff.2 h)
  refine (hsorted.and hne).imp fun {a b} ⟨hle, hne⟩ => ?_
  rw [String.lt_iff_toList_lt, ← Path.compareChars_eq_lt_iff]
  cases hcmp : Path.compareChars a.1.toList b.1.toList with
  | lt => rfl
  | eq => exact absurd (String.toList_injective (Path.eq_of_compareChars hcmp)) hne
  | gt =>
    rw [hcmp] at hle
    cases hle

theorem mem_sortByName {α : Type} {items : List (String × α)} {e : String × α} :
    e ∈ sortByName items ↔ e ∈ items := (List.mergeSort_perm items _).mem_iff

/-! ### Trees -/

theorem lookup_eq_some_iff_mem {entries : List (String × Node)} {a : String} {x : Node}
    (h : (entries.map Prod.fst).Nodup) : entries.lookup a = some x ↔ (a, x) ∈ entries := by
  constructor
  · intro hx
    obtain ⟨front, back, rfl, -⟩ := List.lookup_eq_some_iff.1 hx
    exact List.mem_append_right _ List.mem_cons_self
  · intro hx
    obtain ⟨front, back, rfl⟩ := List.append_of_mem hx
    refine List.lookup_eq_some_iff.2 ⟨front, back, rfl, fun e he => ?_⟩
    rw [List.map_append, List.map_cons, List.nodup_append] at h
    simpa using (h.2.2 e.1 (List.mem_map_of_mem he) a List.mem_cons_self).symm

namespace Node

/-- A tree whose directories hold each name once, and only names that paths may have. -/
inductive WellFormed : Node → Prop
  /-- A file. -/
  | file (bytes : List UInt8) : WellFormed (.file bytes)
  /-- A directory. -/
  | dir {shared : Bool} {entries : List (String × Node)} : (entries.map Prod.fst).Nodup →
      (∀ e ∈ entries, Path.IsName e.1.toList) → (∀ e ∈ entries, WellFormed e.2) →
      WellFormed (.dir shared entries)

variable {n x : Node} {path : Path} {name : String} {l : List String} {shared : Bool}
  {entries : List (String × Node)}

/-- Locations in a tree are lists of names. -/
theorem WellFormed.isName (h : n.WellFormed) (hx : n.get? l = some x) :
    ∀ a ∈ l, Path.IsName a.toList := by
  induction l generalizing n with
  | nil => simp
  | cons a l ih =>
    rw [get?_cons] at hx
    obtain ⟨c, hc, hbelow⟩ := Option.bind_eq_some_iff.1 hx
    cases h with
    | file bytes => cases hc
    | dir hnodup hnames hentries =>
      have hmem := (lookup_eq_some_iff_mem hnodup).1 hc
      exact List.forall_mem_cons.2 ⟨hnames _ hmem, ih (hentries _ hmem) hbelow⟩

/-! ### Sources and their locations -/

/-- A source at a location of a node that stands at a path under a name. -/
structure SourceAt (n : Node) (path : Path) (name : String) (l : List String) : Prop where
  /-- A file is there. -/
  file : ∃ bytes, n.get? l = some (.file bytes)
  /-- It has the extension of a source. -/
  isSource : (path.joinAll l).isSource
  /-- No directory above it is one for logs. -/
  logs_notMem : logDirName ∉ (name :: l).dropLast

/-- The locations at which the search below a node finds sources. -/
structure Listed (n : Node) (path : Path) (name : String) (locations : List (List String)) :
    Prop where
  /-- They are those that are found. -/
  sources_eq : n.sources path name = locations.map path.joinAll
  /-- They are in order. -/
  pairwise : locations.Pairwise (· < ·)
  /-- They are those of sources. -/
  mem_iff (l : List String) : l ∈ locations ↔ n.SourceAt path name l

theorem Listed.nodup {locations : List (List String)} (h : n.Listed path name locations) :
    locations.Nodup := by
  refine h.pairwise.imp ?_
  rintro l _ hlt rfl
  exact List.lt_irrefl l hlt

theorem entrySources_eq_map (path : Path) (entries : List (String × Node)) :
    entrySources path entries =
      entries.map fun e => (e.1, e.2.sources (path.join e.1) e.1) := by
  induction entries with
  | nil => rw [entrySources, List.map_nil]
  | cons e entries ih => rw [entrySources, ih, List.map_cons]

/-- A directory has the sources of its entries, in the order of their names. -/
theorem sources_dir (shared : Bool) (entries : List (String × Node)) (h : name ≠ logDirName) :
    (dir shared entries).sources path name =
      (sortByName entries).flatMap fun e => e.2.sources (path.join e.1) e.1 := by
  have hsort : sortByName (entrySources path entries) =
      (sortByName entries).map fun e => (e.1, e.2.sources (path.join e.1) e.1) := by
    rw [entrySources_eq_map, sortByName, sortByName, List.map_mergeSort]
    exact fun _ _ _ _ => rfl
  rw [Node.sources, if_neg (by simpa using h), hsort, List.map_map, List.flatMap_def]
  rfl

theorem sourceAt_file_iff {bytes : List UInt8} :
    (file bytes).SourceAt path name l ↔ l = [] ∧ path.isSource := by
  constructor
  · rintro ⟨⟨_, hfile⟩, hsource, -⟩
    cases l with
    | nil => exact ⟨rfl, hsource⟩
    | cons a l =>
      rw [get?_file_cons] at hfile
      cases hfile
  · rintro ⟨rfl, hsource⟩
    exact ⟨⟨bytes, get?_nil _⟩, hsource, List.not_mem_nil⟩

theorem not_sourceAt_logs : ¬(dir shared entries).SourceAt path logDirName l := by
  rintro ⟨⟨_, hfile⟩, -, hlogs⟩
  cases l with
  | nil => cases hfile
  | cons a l => exact hlogs List.mem_cons_self

theorem sourceAt_dir_iff (hnodup : (entries.map Prod.fst).Nodup) (h : name ≠ logDirName) :
    (dir shared entries).SourceAt path name l ↔
      ∃ e ∈ entries, ∃ below, l = e.1 :: below ∧ e.2.SourceAt (path.join e.1) e.1 below := by
  constructor
  · rintro ⟨⟨bytes, hfile⟩, hsource, hlogs⟩
    cases l with
    | nil => cases hfile
    | cons a below =>
      rw [get?_cons] at hfile
      obtain ⟨c, hc, hfile⟩ := Option.bind_eq_some_iff.1 hfile
      exact ⟨(a, c), (lookup_eq_some_iff_mem hnodup).1 hc, below, rfl, ⟨bytes, hfile⟩, hsource,
        fun hmem => hlogs (List.mem_cons_of_mem _ hmem)⟩
  · rintro ⟨⟨a, c⟩, he, below, rfl, ⟨bytes, hfile⟩, hsource, hlogs⟩
    refine ⟨⟨bytes, ?_⟩, hsource, List.not_mem_cons_of_ne_of_not_mem (Ne.symm h) hlogs⟩
    rw [get?_cons, child?, (lookup_eq_some_iff_mem hnodup).2 he]
    exact hfile

/-- The locations below entries in order are in order. -/
theorem exists_listed_entries (hsorted : entries.Pairwise fun a b => a.1 < b.1)
    (h : ∀ e ∈ entries, ∃ locations, e.2.Listed (path.join e.1) e.1 locations) :
    ∃ locations : List (List String),
      (entries.flatMap fun e => e.2.sources (path.join e.1) e.1) = locations.map path.joinAll ∧
        locations.Pairwise (· < ·) ∧ ∀ l, l ∈ locations ↔
          ∃ e ∈ entries, ∃ below, l = e.1 :: below ∧ e.2.SourceAt (path.join e.1) e.1 below := by
  induction entries with
  | nil => exact ⟨[], rfl, .nil, by simp⟩
  | cons e entries ih =>
    obtain ⟨hfirst, hsorted⟩ := List.pairwise_cons.1 hsorted
    obtain ⟨⟨first, hlisted⟩, h⟩ := List.forall_mem_cons.1 h
    obtain ⟨others, hothers, hpairwise, hmem⟩ := ih hsorted h
    refine ⟨first.map (e.1 :: ·) ++ others, ?_, List.pairwise_append.2 ⟨?_, hpairwise, ?_⟩, ?_⟩
    · rw [List.flatMap_cons, hlisted.sources_eq, hothers, List.map_append, List.map_map]
      rfl
    · exact List.pairwise_map.2 (hlisted.pairwise.imp fun hlt => List.cons_lt_cons_iff.2
        (.inr ⟨rfl, hlt⟩))
    · intro l hl l' hl'
      obtain ⟨below, -, rfl⟩ := List.mem_map.1 hl
      obtain ⟨e', he', below', rfl, -⟩ := (hmem l').1 hl'
      exact List.cons_lt_cons_iff.2 (.inl (hfirst e' he'))
    · intro l
      rw [List.mem_append, hmem, List.exists_mem_cons_iff]
      refine or_congr_left ?_
      rw [List.mem_map]
      exact exists_congr fun below => by rw [hlisted.mem_iff, eq_comm, and_comm]

/-- **The search is exact.**  Whatever stands at a path, all sources in it are found, each of them
once, in the order of their locations. -/
theorem WellFormed.exists_listed (h : n.WellFormed) (path : Path) (name : String) :
    ∃ locations, n.Listed path name locations := by
  induction h generalizing path name with
  | file bytes =>
    by_cases hsource : path.isSource
    · exact ⟨[[]], by rw [Node.sources, if_pos hsource]; rfl, List.pairwise_singleton _ _,
        fun l => by rw [sourceAt_file_iff]; simp [hsource]⟩
    · exact ⟨[], by rw [Node.sources, if_neg hsource]; rfl, .nil,
        fun l => by rw [sourceAt_file_iff]; simp [hsource]⟩
  | @dir shared entries hnodup hnames hentries ih =>
    by_cases hname : name = logDirName
    · subst hname
      exact ⟨[], by rw [Node.sources]; rfl, .nil, fun l => by simp [not_sourceAt_logs]⟩
    · obtain ⟨locations, hsources, hpairwise, hmem⟩ :=
        exists_listed_entries (pairwise_sortByName hnodup) fun e he =>
          ih e (mem_sortByName.1 he) (path.join e.1) e.1
      refine ⟨locations, (sources_dir shared entries hname).trans hsources, hpairwise, fun l => ?_⟩
      rw [hmem, sourceAt_dir_iff hnodup hname]
      exact exists_congr fun e => and_congr_left' mem_sortByName

end Node

/-- What has the extension of a source. -/
theorem Path.isSource_iff {p : Path} :
    p.isSource ↔ ∃ stem ext, p.fileName? = some (stem ++ '.' :: ext) ∧ stem ≠ [] ∧ '.' ∉ ext ∧
      lowered ext ∈ Language.extensions := by
  have hext : p.isSource ↔ ∃ ext, p.extension? = some ext ∧ lowered ext ∈ Language.extensions := by
    rw [isSource]
    cases p.extension? <;> simp
  rw [hext]
  constructor
  · rintro ⟨ext, hext, hmem⟩
    obtain ⟨name, hname, hext⟩ := Option.bind_eq_some_iff.1 hext
    obtain ⟨stem, rfl, hstem, hdot, -⟩ := extensionOf_eq_some_iff.1 hext
    exact ⟨stem, ext, hname, hstem, hdot, hmem⟩
  · rintro ⟨stem, ext, hname, hstem, hdot, hmem⟩
    refine ⟨ext, Option.bind_eq_some_iff.2 ⟨_, hname, ?_⟩, hmem⟩
    refine extensionOf_eq_some_iff.2 ⟨stem, rfl, hstem, hdot, fun hup => ?_⟩
    -- The name of the directory above has no extension but the empty one.
    cases ext with
    | nil => exact absurd hmem (by decide)
    | cons c ext =>
      have hlength := congrArg List.length hup
      have hpos := List.length_pos_iff.2 hstem
      simp only [List.length_append, List.length_cons, List.length_nil] at hlength
      omega

namespace Disk

variable {d : Disk} {p : Path} {location : List String} {n : Node} {args front : List Path}
  {found : List Path} {e : Failure}

/-! ### Arguments -/

theorem not_isDir_of_isFile (h : d.isFile p) : ¬d.isDir p := by
  obtain ⟨location, bytes, hp⟩ := isFile_iff.1 h
  rw [isDir, lookup?_eq_some_iff.2 ⟨location, hp⟩]
  exact Bool.false_ne_true

/-- What an argument stands for. -/
inductive StandsFor (d : Disk) (p : Path) : List Path → Prop
  /-- A file stands for itself. -/
  | file : d.isFile p → StandsFor d p [p]
  /-- A directory stands for the sources in it. -/
  | dir {found : List Path} : d.isDir p → d.collect p = .ok found → StandsFor d p found

theorem collect_of_resolve (h : d.resolve p = .ok (location, some n)) :
    d.collect p = .ok (n.sources p ((p.fileName?.map String.ofList).getD p.text)) := by
  rw [collect, h]

theorem exists_standsFor : (∃ found, d.StandsFor p found) ↔ d.isFile p ∨ d.isDir p := by
  constructor
  · rintro ⟨found, hfile | ⟨hdir, -⟩⟩
    · exact .inl hfile
    · exact .inr hdir
  · rintro (hfile | hdir)
    · exact ⟨_, .file hfile⟩
    · obtain ⟨location, n, hp, -⟩ := isDir_iff.1 hdir
      exact ⟨_, .dir hdir (collect_of_resolve hp)⟩

theorem expand_cons (h : d.StandsFor p found) (rest : List Path) :
    d.expand (p :: rest) = (d.expand rest).map (found ++ ·) := by
  rw [expand]
  cases h with
  | file hfile => rw [if_neg (not_isDir_of_isFile hfile), if_pos hfile]
  | dir hdir hfound => rw [if_pos hdir, hfound]

theorem expand_cons_of_not (hfile : ¬d.isFile p) (hdir : ¬d.isDir p) (rest : List Path) :
    d.expand (p :: rest) = .error (.notFound p) := by
  rw [expand, if_neg hdir, if_neg hfile]

theorem exists_forall₂_standsFor (h : ∀ q ∈ args, d.isFile q ∨ d.isDir q) :
    ∃ parts, List.Forall₂ d.StandsFor args parts := by
  induction args with
  | nil => exact ⟨[], .nil⟩
  | cons p rest ih =>
    obtain ⟨hp, h⟩ := List.forall_mem_cons.1 h
    obtain ⟨found, hfound⟩ := exists_standsFor.2 hp
    obtain ⟨parts, hparts⟩ := ih h
    exact ⟨found :: parts, .cons hfound hparts⟩

/-- Arguments that stand for something come before the rest. -/
theorem expand_append_of_forall₂ {parts : List (List Path)}
    (h : List.Forall₂ d.StandsFor args parts) (rest : List Path) :
    d.expand (args ++ rest) = (d.expand rest).map (parts.flatten ++ ·) := by
  induction h with
  | nil =>
    rw [List.nil_append]
    cases d.expand rest <;> rfl
  | cons hp _ ih =>
    rw [List.cons_append, expand_cons hp, ih]
    cases d.expand rest <;> simp [Except.map]

theorem expand_of_forall₂ {parts : List (List Path)} (h : List.Forall₂ d.StandsFor args parts) :
    d.expand args = .ok parts.flatten := by
  have happend := expand_append_of_forall₂ h []
  rwa [List.append_nil, expand, Except.map, List.append_nil] at happend

/-- The first argument at which nothing is fails. -/
theorem expand_of_not (hfront : ∀ q ∈ front, d.isFile q ∨ d.isDir q) (hfile : ¬d.isFile p)
    (hdir : ¬d.isDir p) (back : List Path) :
    d.expand (front ++ p :: back) = .error (.notFound p) := by
  obtain ⟨parts, hparts⟩ := exists_forall₂_standsFor hfront
  rw [expand_append_of_forall₂ hparts, expand_cons_of_not hfile hdir]
  rfl

/-- Either all arguments stand for something, or there is a first one at which nothing is. -/
theorem forall_or_exists_first (d : Disk) (args : List Path) :
    (∀ q ∈ args, d.isFile q ∨ d.isDir q) ∨ ∃ front p back, args = front ++ p :: back ∧
      (∀ q ∈ front, d.isFile q ∨ d.isDir q) ∧ ¬d.isFile p ∧ ¬d.isDir p := by
  cases hfind : args.find? fun q => !(d.isFile q || d.isDir q) with
  | none =>
    refine .inl fun q hq => ?_
    simpa only [Bool.not_eq_true', Bool.not_eq_false, Bool.or_eq_true] using
      List.find?_eq_none.1 hfind q hq
  | some p =>
    obtain ⟨hp, front, back, rfl, hfront⟩ := List.find?_eq_some_iff_append.1 hfind
    exact .inr ⟨front, p, back, rfl, fun q hq => by simpa using hfront q hq, by simpa using hp⟩

/-- **Arguments one after the other.**  What they stand for is put together in their order. -/
theorem expand_eq_ok_iff :
    d.expand args = .ok found ↔
      ∃ parts, List.Forall₂ d.StandsFor args parts ∧ found = parts.flatten := by
  constructor
  · intro h
    obtain hall | ⟨front, p, back, rfl, hfront, hfile, hdir⟩ := d.forall_or_exists_first args
    · obtain ⟨parts, hparts⟩ := exists_forall₂_standsFor hall
      rw [expand_of_forall₂ hparts] at h
      exact ⟨parts, hparts, (Except.ok.inj h).symm⟩
    · rw [expand_of_not hfront hfile hdir] at h
      cases h
  · rintro ⟨parts, hparts, rfl⟩
    exact expand_of_forall₂ hparts

/-- **Arguments at which nothing is.**  The first of them is reported. -/
theorem expand_eq_error_iff :
    d.expand args = .error e ↔ ∃ front p back, args = front ++ p :: back ∧
      (∀ q ∈ front, d.isFile q ∨ d.isDir q) ∧ ¬d.isFile p ∧ ¬d.isDir p ∧ e = .notFound p := by
  constructor
  · intro h
    obtain hall | ⟨front, p, back, rfl, hfront, hfile, hdir⟩ := d.forall_or_exists_first args
    · obtain ⟨parts, hparts⟩ := exists_forall₂_standsFor hall
      rw [expand_of_forall₂ hparts] at h
      cases h
    · rw [expand_of_not hfront hfile hdir] at h
      exact ⟨front, p, back, rfl, hfront, hfile, hdir, (Except.error.inj h).symm⟩
  · rintro ⟨front, p, back, rfl, hfront, hfile, hdir, rfl⟩
    exact expand_of_not hfront hfile hdir back

theorem expand_append {rest found' : List Path} (h : d.expand args = .ok found)
    (h' : d.expand rest = .ok found') : d.expand (args ++ rest) = .ok (found ++ found') := by
  obtain ⟨parts, hparts, rfl⟩ := expand_eq_ok_iff.1 h
  rw [expand_append_of_forall₂ hparts, h']
  rfl

/-- **Collections are exact.**  The sources at or below a path are found at the locations of files
with one of eight extensions that are in no directory for logs, in the order of these locations, and
none of them twice; their paths lead to them.  Arguments stand for these collections, or for
themselves if they are files, and the first one that is neither makes the expansion fail. -/
theorem expand_exact (d : Disk) :
    (∀ p location n, d.resolve p = .ok (location, some n) → n.WellFormed →
      ∃ locations : List (List String), d.collect p = .ok (locations.map p.joinAll) ∧
        locations.Pairwise (· < ·) ∧ (locations.map p.joinAll).Nodup ∧
        (∀ l, l ∈ locations ↔ (∃ bytes, n.get? l = some (.file bytes)) ∧
          (∃ stem ext, (p.joinAll l).fileName? = some (stem ++ '.' :: ext) ∧ stem ≠ [] ∧
            '.' ∉ ext ∧ lowered ext ∈ ["c", "cpp", "cc", "cxx", "h", "hpp", "pl", "pm"]) ∧
          "Logs" ∉ ((p.fileName?.map String.ofList).getD p.text :: l).dropLast) ∧
        ∀ l ∈ locations, (∀ a ∈ l, a.utf8ByteSize ≤ maxName) → (p.joinAll l).Usable →
          ∃ bytes, d.resolve (p.joinAll l) = .ok (location ++ l, some (.file bytes))) ∧
    (∀ (p : Path) above name, Path.IsName name.toList →
      (p.joinAll (above ++ [name])).fileName? = some name.toList) ∧
    (∀ args found, d.expand args = .ok found ↔
      ∃ parts, List.Forall₂ d.StandsFor args parts ∧ found = parts.flatten) ∧
    (∀ args e, d.expand args = .error e ↔ ∃ front p back, args = front ++ p :: back ∧
      (∀ q ∈ front, d.isFile q ∨ d.isDir q) ∧ ¬d.isFile p ∧ ¬d.isDir p ∧ e = .notFound p) ∧
    ∀ args rest found found', d.expand args = .ok found → d.expand rest = .ok found' →
      d.expand (args ++ rest) = .ok (found ++ found') := by
  refine ⟨?_, ?_, fun _ _ => expand_eq_ok_iff, fun _ _ => expand_eq_error_iff,
    fun _ _ _ _ => expand_append⟩
  · intro p location n hp hn
    obtain ⟨locations, hlisted⟩ :=
      hn.exists_listed p ((p.fileName?.map String.ofList).getD p.text)
    have hnames : ∀ l ∈ locations, ∀ a ∈ l, Path.IsName a.toList := fun l hl =>
      let ⟨_, hfile⟩ := ((hlisted.mem_iff l).1 hl).file
      hn.isName hfile
    refine ⟨locations, ?_, hlisted.pairwise, ?_, fun l => ?_, fun l hl hsize husable => ?_⟩
    · rw [collect_of_resolve hp, hlisted.sources_eq]
    · refine List.Nodup.map_on (fun l hl l' hl' heq => ?_) ?_
      · exact Path.joinAll_inj p (hnames l hl) (hnames l' hl') heq
      · exact hlisted.nodup
    · rw [hlisted.mem_iff, ← Language.extensions, ← Path.isSource_iff]
      exact ⟨fun h => ⟨h.file, h.isSource, h.logs_notMem⟩, fun h => ⟨h.1, h.2.1, h.2.2⟩⟩
    · obtain ⟨bytes, hfile⟩ := ((hlisted.mem_iff l).1 hl).file
      exact ⟨bytes, resolve_joinAll hp hfile (fun a ha => ⟨hnames l hl a ha, hsize a ha⟩) husable⟩
  · intro p above name hname
    rw [Path.joinAll_concat, Path.fileName?_join _ hname]

/-- Sources, one of them in a directory below, among other files and old logs. -/
def sourceTree : Node :=
  .dir false [("main.C", .file []), ("Logs", .dir false [("old.c", .file [])]),
    ("lib", .dir false [("util.h", .file [])]), ("notes.txt", .file [])]

theorem wellFormed_sourceTree : sourceTree.WellFormed := by
  refine .dir (by decide) (by decide) ?_
  simp only [List.forall_mem_cons]
  refine ⟨.file _, .dir (by decide) (by decide) ?_, .dir (by decide) (by decide) ?_, .file _,
    List.forall_mem_nil _⟩
  all_goals exact List.forall_mem_cons.2 ⟨.file _, List.forall_mem_nil _⟩

theorem expand_exact_sourceTree :
    let d : Disk := ⟨.dir false [("src", sourceTree)], []⟩
    (∃ locations : List (List String),
      d.collect ⟨"src"⟩ = .ok (locations.map (Path.joinAll ⟨"src"⟩)) ∧
        locations.Pairwise (· < ·) ∧ ["main.C"] ∈ locations ∧ ["lib", "util.h"] ∈ locations ∧
        ["Logs", "old.c"] ∉ locations ∧ ["notes.txt"] ∉ locations ∧
        ∃ bytes, d.resolve ⟨"src/lib/util.h"⟩ =
          .ok (["src", "lib", "util.h"], some (.file bytes))) ∧
    d.expand [⟨"src/notes.txt"⟩] = .ok [⟨"src/notes.txt"⟩] ∧
    d.expand [⟨"src/notes.txt"⟩, ⟨"none"⟩, ⟨"src"⟩] = .error (.notFound ⟨"none"⟩) ∧
    d.expand ([⟨"src/notes.txt"⟩] ++ [⟨"src/main.C"⟩]) =
      .ok ([⟨"src/notes.txt"⟩] ++ [⟨"src/main.C"⟩]) := by
  intro d
  obtain ⟨hcollect, hname, hok, herror, happend⟩ := expand_exact d
  have hfile : ∀ p, d.isFile p → d.expand [p] = .ok [p] := fun p hp =>
    (hok [p] [p]).2 ⟨[[p]], .cons (.file hp) .nil, rfl⟩
  have hnotes := hfile ⟨"src/notes.txt"⟩ (by decide)
  refine ⟨?_, hnotes, ?_, happend _ _ _ _ hnotes (hfile ⟨"src/main.C"⟩ (by decide))⟩
  · obtain ⟨locations, hfound, hsorted, -, hmem, hpath⟩ :=
      hcollect ⟨"src"⟩ ["src"] sourceTree rfl wellFormed_sourceTree
    have hutil : ["lib", "util.h"] ∈ locations :=
      (hmem _).2 ⟨⟨[], rfl⟩, ⟨"util".toList, "h".toList, hname ⟨"src"⟩ ["lib"] "util.h" (by decide),
        by decide, by decide, by decide⟩, by decide⟩
    refine ⟨locations, hfound, hsorted, ?_, hutil, ?_, ?_,
      hpath _ hutil (by decide) ⟨by decide, by decide, by decide⟩⟩
    · exact (hmem _).2 ⟨⟨[], rfl⟩, ⟨"main".toList, "C".toList,
        hname ⟨"src"⟩ [] "main.C" (by decide), by decide, by decide, by decide⟩, by decide⟩
    · exact fun h => ((hmem _).1 h).2.2 (by decide)
    · exact fun h => absurd (Path.isSource_iff.2 ((hmem _).1 h).2.1) (by decide)
  · exact (herror _ _).2 ⟨[⟨"src/notes.txt"⟩], ⟨"none"⟩, [⟨"src"⟩], rfl, by decide, by decide,
      by decide, rfl⟩

end Disk

end StyleAudit
