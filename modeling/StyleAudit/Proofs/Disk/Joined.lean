import Mathlib.Data.List.Basic
import Mathlib.Data.List.Induction
import StyleAudit.Proofs.Disk.Resolve
import StyleAudit.Proofs.Path.Name

/-!
# Joined paths

What is joined to a path comes behind it: the segments of the whole are those of the parts
(`Path.steps_join`), and the name at the end is the last name joined (`Path.fileName?_join`).  So a
path to which a name is joined leads to the entry of that name in the directory that the path leads
to, or nowhere (`Disk.leads_concat_iff`, `Disk.resolve_join`), and different names joined one after
the other make different paths (`Path.joinAll_inj`).
-/

namespace StyleAudit

namespace Path

variable {p : Path} {name rest : String}

/-! ### Segments -/

/-- A text that does not start at the root. -/
def IsRelative (rest : String) : Prop := (Path.mk rest).isAbsolute = false

/-- What stands before a relative path that is joined. -/
def front (p : Path) : List Char :=
  if p.text == "" then []
  else if p.text.toList.getLast? == some '/' then p.text.toList
  else p.text.toList ++ ['/']

theorem toList_join (p : Path) (h : IsRelative rest) :
    (p.join rest).text.toList = p.front ++ rest.toList := by
  rw [join, front, h, Bool.false_or]
  split_ifs
  · rfl
  · rw [String.toList_append]
  · rw [String.toList_append, String.toList_append]
    rfl

/-- The segments of a text that count. -/
def stepsOf (t : List Char) : List (List Char) :=
  (Text.splitAtChar '/' t).filter (!·.isEmpty)

theorem steps_eq (p : Path) : p.steps = stepsOf p.text.toList := rfl

theorem stepsOf_append_slash (s t : List Char) :
    stepsOf (s ++ '/' :: t) = stepsOf s ++ stepsOf t := by
  rw [stepsOf, Text.splitAtChar_append_cons, List.filter_append, stepsOf, stepsOf]

theorem front_cases (p : Path) :
    (p.front = [] ∧ p.steps = []) ∨ ∃ s, p.front = s ++ ['/'] ∧ p.steps = stepsOf s := by
  rw [front, steps_eq]
  split_ifs with hnil hslash
  · left
    rw [beq_iff_eq] at hnil
    rw [hnil]
    exact ⟨rfl, rfl⟩
  · right
    rw [beq_iff_eq] at hslash
    obtain ⟨s, hs⟩ := List.getLast?_eq_some_iff.1 hslash
    refine ⟨s, hs, ?_⟩
    rw [hs, stepsOf_append_slash]
    exact List.append_nil _
  · exact .inr ⟨_, rfl, rfl⟩

/-- The segments of a joined path. -/
theorem steps_join (p : Path) (h : IsRelative rest) :
    (p.join rest).steps = p.steps ++ (Path.mk rest).steps := by
  rw [steps_eq, toList_join p h]
  obtain ⟨hfront, hsteps⟩ | ⟨s, hfront, hsteps⟩ := p.front_cases
  · rw [hfront, hsteps]
    rfl
  · rw [hfront, hsteps, List.append_assoc, List.singleton_append, stepsOf_append_slash]
    rfl

theorem isAbsolute_eq (p : Path) : p.isAbsolute = (p.text.toList.head? == some '/') := by
  rw [isAbsolute]
  cases p.text.toList with
  | nil => rfl
  | cons c t => simp [List.isPrefixOf, Bool.beq_comm]

theorem isAbsolute_join (p : Path) (h : IsRelative rest) :
    (p.join rest).isAbsolute = p.isAbsolute := by
  rw [isAbsolute_eq, isAbsolute_eq, toList_join p h, front]
  split_ifs with hnil hslash
  · rw [beq_iff_eq] at hnil
    rw [hnil]
    exact (isAbsolute_eq _).symm.trans h
  · cases ht : p.text.toList with
    | nil =>
      rw [ht] at hslash
      cases hslash
    | cons c t => rfl
  · cases ht : p.text.toList with
    | nil => exact absurd (String.toList_eq_nil_iff.1 ht) (by simpa using hnil)
    | cons c t => rfl

theorem startOf_join (d : Disk) (p : Path) (h : IsRelative rest) :
    d.startOf (p.join rest) = d.startOf p := by
  rw [Disk.startOf, Disk.startOf, isAbsolute_join p h]

/-! ### Names -/

theorem IsName.isRelative (h : IsName name.toList) : IsRelative name := by
  rw [IsRelative, isAbsolute_eq]
  cases ht : name.toList with
  | nil => rfl
  | cons c t =>
    have hc : '/' ≠ c := List.ne_of_not_mem_cons (ht ▸ h.slash_notMem)
    simpa using Ne.symm hc

theorem IsName.steps_eq (h : IsName name.toList) : (Path.mk name).steps = [name.toList] := by
  rw [Path.steps, Text.splitAtChar_of_not_mem h.slash_notMem, List.filter_cons_of_pos]
  · rfl
  · simpa using h.ne_nil

theorem steps_join_name (p : Path) (h : IsName name.toList) :
    (p.join name).steps = p.steps ++ [name.toList] := by
  rw [steps_join p h.isRelative, h.steps_eq]

/-- The name of a joined path is the name that was joined. -/
theorem fileName?_join (p : Path) (h : IsName name.toList) :
    (p.join name).fileName? = some name.toList := by
  have hparts : ∃ parts, Text.splitAtChar '/' (p.join name).text.toList =
      parts ++ [name.toList] := by
    have hname := Text.splitAtChar_of_not_mem h.slash_notMem
    rw [toList_join p h.isRelative]
    obtain ⟨hfront, -⟩ | ⟨s, hfront, -⟩ := p.front_cases
    · exact ⟨[], by rw [hfront, List.nil_append, hname]; rfl⟩
    · refine ⟨Text.splitAtChar '/' s, ?_⟩
      rw [hfront, List.append_assoc, List.singleton_append, Text.splitAtChar_append_cons, hname]
  obtain ⟨parts, hparts⟩ := hparts
  exact fileName?_of_splitAtChar hparts h

/-- Names joined to a path one after the other. -/
def joinAll (p : Path) (names : List String) : Path := names.foldl join p

@[simp] theorem joinAll_nil (p : Path) : p.joinAll [] = p := rfl

@[simp] theorem joinAll_cons (p : Path) (name : String) (names : List String) :
    p.joinAll (name :: names) = (p.join name).joinAll names := rfl

theorem joinAll_concat (p : Path) (names : List String) (name : String) :
    p.joinAll (names ++ [name]) = (p.joinAll names).join name := by
  rw [joinAll, List.foldl_append, joinAll]
  rfl

theorem steps_joinAll (p : Path) {names : List String} (h : ∀ name ∈ names, IsName name.toList) :
    (p.joinAll names).steps = p.steps ++ names.map String.toList := by
  induction names generalizing p with
  | nil => simp
  | cons name names ih =>
    obtain ⟨hname, h⟩ := List.forall_mem_cons.1 h
    rw [joinAll_cons, ih _ h, steps_join_name p hname, List.map_cons, List.append_assoc,
      List.singleton_append]

theorem startOf_joinAll (d : Disk) (p : Path) {names : List String}
    (h : ∀ name ∈ names, IsName name.toList) : d.startOf (p.joinAll names) = d.startOf p := by
  induction names generalizing p with
  | nil => rfl
  | cons name names ih =>
    obtain ⟨hname, h⟩ := List.forall_mem_cons.1 h
    rw [joinAll_cons, ih _ h, startOf_join d p hname.isRelative]

/-- Different names lead to different paths. -/
theorem joinAll_inj (p : Path) {names names' : List String}
    (h : ∀ name ∈ names, IsName name.toList) (h' : ∀ name ∈ names', IsName name.toList)
    (heq : p.joinAll names = p.joinAll names') : names = names' := by
  have hsteps := congrArg steps heq
  rw [steps_joinAll p h, steps_joinAll p h'] at hsteps
  have hmap : names.map String.toList = names'.map String.toList := List.append_cancel_left hsteps
  exact List.map_injective_iff.2 (fun _ _ => String.toList_injective) hmap

end Path

namespace Disk

variable {d : Disk} {p : Path} {start location : List String} {segs : List (List Char)}
  {seg : List Char} {node : Option Node}

/-! ### Entries -/

/-- A last name leads from a directory to its entry. -/
theorem leads_concat_iff (hs : d.DirAt start) (hhere : seg ≠ ['.']) (hup : seg ≠ ['.', '.']) :
    d.Leads start (segs ++ [seg]) location ↔
      ∃ above, d.Leads start segs above ∧ d.DirAt above ∧
        (String.ofList seg).utf8ByteSize ≤ maxName ∧ location = above ++ [String.ofList seg] := by
  constructor
  · intro h
    generalize hall : segs ++ [seg] = all at h
    induction h generalizing segs with
    | stop => simp at hall
    | @here start location rest h ih =>
      cases segs with
      | nil =>
        cases hall
        exact absurd rfl hhere
      | cons s segs =>
        cases hall
        obtain ⟨above, habove, hrest⟩ := ih hs rfl
        exact ⟨above, .here habove, hrest⟩
    | @up start location rest h ih =>
      cases segs with
      | nil =>
        cases hall
        exact absurd rfl hup
      | cons s segs =>
        cases hall
        obtain ⟨above, habove, hrest⟩ := ih hs.dropLast rfl
        exact ⟨above, .up habove, hrest⟩
    | @into start location s rest hn hd h ih =>
      cases segs with
      | nil =>
        cases hall
        cases h
        exact ⟨start, .stop start, hs, hn.2.2, rfl⟩
      | cons s segs =>
        cases hall
        obtain ⟨above, habove, hrest⟩ := ih hd rfl
        exact ⟨above, .into hn hd habove, hrest⟩
    | @last start s hn =>
      cases segs with
      | nil =>
        cases hall
        exact ⟨start, .stop start, hs, hn.2.2, rfl⟩
      | cons s segs => simp at hall
  · rintro ⟨above, habove, hd, hsize, rfl⟩
    have hn : Names seg := ⟨hhere, hup, hsize⟩
    induction habove with
    | stop start => exact .last start hn
    | here _ ih => exact .here (ih hs hd)
    | up _ ih => exact .up (ih hs.dropLast hd)
    | into hn' hd' _ ih => exact .into hn' hd' (ih hd' hd)
    | last start hn' => exact .into hn' hd (.last _ hn)

theorem DirAt.of_prefix {above : List String} (h : d.DirAt location) (hp : above <+: location) :
    d.DirAt above := by
  obtain ⟨below, rfl⟩ := hp
  induction below using List.reverseRecOn with
  | nil => rwa [List.append_nil] at h
  | append_singleton below a ih =>
    refine ih ?_
    have hdrop := h.dropLast
    rwa [← List.append_assoc, List.dropLast_concat] at hdrop

/-- Segments may be followed in two parts, with a directory in between. -/
theorem Leads.append {mid : List String} {segs' : List (List Char)} (h : d.Leads start segs mid)
    (hmid : d.DirAt mid) (h' : d.Leads mid segs' location) :
    d.Leads start (segs ++ segs') location := by
  induction h with
  | stop start => exact h'
  | here _ ih => exact .here (ih hmid h')
  | up _ ih => exact .up (ih hmid h')
  | into hn hd _ ih => exact .into hn hd (ih hmid h')
  | last start hn => exact .into hn hmid h'

/-- Names lead down to the directory that they are the location of. -/
theorem leads_names {names : List String}
    (h : ∀ name ∈ names, Path.IsName name.toList ∧ name.utf8ByteSize ≤ maxName)
    (hd : d.DirAt (start ++ names)) :
    d.Leads start (names.map String.toList) (start ++ names) := by
  induction names generalizing start with
  | nil =>
    rw [List.append_nil]
    exact .stop start
  | cons name names ih =>
    obtain ⟨⟨hname, hsize⟩, h⟩ := List.forall_mem_cons.1 h
    rw [List.append_cons] at hd ⊢
    have hnext : start ++ [String.ofList name.toList] = start ++ [name] := by
      rw [String.ofList_toList]
    refine .into ⟨hname.ne_here, hname.ne_up, by rwa [String.ofList_toList]⟩ ?_ ?_
    · rw [hnext]
      exact hd.of_prefix (List.prefix_append _ _)
    · rw [hnext]
      exact ih h hd

theorem not_endsIn_join (p : Path) {name : String} (h : Path.IsName name.toList) :
    ¬Text.endsIn '/' (p.join name).text.toList := by
  have hlast : name.toList.getLast? ≠ some '/' := fun hl => h.slash_notMem (List.mem_of_getLast? hl)
  rw [Path.toList_join p h.isRelative, Text.endsIn, List.getLast?_append_of_ne_nil _ h.ne_nil]
  simpa using hlast

/-- **Entries by their paths.**  A path to which a name is joined leads from the directory that the
path leads to into its entry of that name, or to the place for it. -/
theorem resolve_join (p : Path) {name : String} (h : Path.IsName name.toList) :
    d.resolve (p.join name) = .ok (location, node) ↔
      (p.join name).Usable ∧ name.utf8ByteSize ≤ maxName ∧ d.DirAt (d.startOf p) ∧
        ∃ above, d.Leads (d.startOf p) p.steps above ∧ d.DirAt above ∧
          location = above ++ [name] ∧ node = d.root.get? location := by
  rw [resolve_eq_ok_iff, Path.startOf_join d p h.isRelative, Path.steps_join_name p h]
  constructor
  · rintro ⟨husable, hstart, hleads, rfl, -⟩
    obtain ⟨above, habove, hd, hsize, rfl⟩ := (leads_concat_iff hstart h.ne_here h.ne_up).1 hleads
    rw [String.ofList_toList] at hsize ⊢
    exact ⟨husable, hsize, hstart, above, habove, hd, rfl, rfl⟩
  · rintro ⟨husable, hsize, hstart, above, habove, hd, rfl, rfl⟩
    refine ⟨husable, hstart, ?_, rfl, fun hend => absurd hend (not_endsIn_join p h)⟩
    exact (leads_concat_iff hstart h.ne_here h.ne_up).2
      ⟨above, habove, hd, by rwa [String.ofList_toList], by rw [String.ofList_toList]⟩

/-- **Locations by their paths.**  Names that are joined to the path of a directory lead on to what
is below it at their location. -/
theorem resolve_joinAll {x y : Node} (hp : d.resolve p = .ok (location, some x))
    {names : List String} (hx : x.get? names = some y)
    (hnames : ∀ name ∈ names, Path.IsName name.toList ∧ name.utf8ByteSize ≤ maxName)
    (husable : (p.joinAll names).Usable) :
    d.resolve (p.joinAll names) = .ok (location ++ names, some y) := by
  obtain ⟨-, hstart, hleads, hthere, -⟩ := resolve_eq_ok_iff.1 hp
  have hy : d.root.get? (location ++ names) = some y := by
    rw [Node.get?_append, hthere]
    exact hx
  obtain rfl | ⟨above, name, rfl⟩ := names.eq_nil_or_concat
  · obtain rfl := Option.some.inj hx
    rwa [List.append_nil]
  · rw [List.concat_eq_append] at hx hnames husable hy ⊢
    obtain ⟨habove, hname⟩ := List.forall_mem_append.1 hnames
    obtain ⟨hname, hsize⟩ := hname name List.mem_cons_self
    rw [Path.joinAll_concat] at husable ⊢
    rw [← List.append_assoc] at hy ⊢
    obtain ⟨parent, hparent, hdir, -⟩ := Node.isDir_of_get?_concat hy
    have hd : d.DirAt (location ++ above) := ⟨parent, hparent, hdir⟩
    have hstartOf := Path.startOf_joinAll d p fun a ha => (habove a ha).1
    refine (resolve_join _ hname).2 ⟨husable, hsize, ?_, location ++ above, ?_, hd, rfl, hy.symm⟩
    · rwa [hstartOf]
    · rw [hstartOf, Path.steps_joinAll p fun a ha => (habove a ha).1]
      exact hleads.append (hd.of_prefix (List.prefix_append _ _)) (leads_names habove hd)

end Disk

end StyleAudit
