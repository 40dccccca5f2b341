import StyleAudit.Collection
import StyleAudit.Proofs.Log.Creation
import StyleAudit.Proofs.Path.Order
import StyleAudit.Proofs.Sorting

/-!
# Sources of a directory

The sources below a directory are those of its entries, in the order of their names.  Sorting keeps
the order of a selection (`filter_sortByName`), so an entry without sources may be put anywhere
(`Node.sources_put_new`).  New directories and new logs are such entries, whatever the directories
above them are called (`Node.sources_log`).  All that an audit does to a tree is therefore invisible
to the search for sources (`Node.Alike`).
-/

namespace StyleAudit

/-! ### Sorting -/

theorem filter_sortByName {α : Type} (q : String × α → Bool) (items : List (String × α)) :
    (sortByName items).filter q = sortByName (items.filter q) := by
  refine filter_mergeSort ?_ ?_ q items
  · exact fun _ _ _ => Path.compareChars_trans
  · exact fun a b => Path.compareChars_total a.1.toList b.1.toList

/-! ### Sources below a node -/

/-- Paths that end like logs are no sources. -/
theorem Path.isSource_of_suffix {p : Path} (h : Log.suffix <:+ p.text.toList) :
    p.isSource = false := by
  have hext : p.extension? = none ∨ p.extension? = some ['l', 'o', 'g'] :=
    extension?_of_suffix h (by decide) (by decide) (by decide)
  rw [isSource]
  obtain hnone | hlog := hext
  · rw [hnone]
  · rw [hlog]
    decide

/-- Entries without sources do not count. -/
theorem flatten_sortByName (items : List (String × List Path)) :
    ((sortByName items).map (·.2)).flatten =
      ((sortByName (items.filter (!·.2.isEmpty))).map (·.2)).flatten := by
  rw [← filter_sortByName, ← List.flatten_filter_not_isEmpty, List.filter_map]
  rfl

theorem entrySources_append (path : Path) (first second : List (String × Node)) :
    entrySources path (first ++ second) = entrySources path first ++ entrySources path second := by
  induction first with
  | nil => simp [entrySources]
  | cons e first ih =>
    obtain ⟨name, node⟩ := e
    rw [List.cons_append, entrySources, entrySources, ih, List.cons_append]

namespace Node

variable {n new c c' : Node} {a : String}

/-- A directory has the sources that it had if its child has. -/
theorem sources_put (hc : n.child? a = some c)
    (h : ∀ path name, c'.sources path name = c.sources path name) (path : Path) (name : String) :
    (n.put a c').sources path name = n.sources path name := by
  obtain ⟨shared, entries, rfl, hlookup⟩ := exists_of_child? hc
  obtain ⟨front, back, rfl, hput⟩ := exists_putEntry_eq hlookup
  rw [put, Node.sources, Node.sources, hput, entrySources_append, entrySources_append,
    entrySources, entrySources, h]

/-- A new child without sources adds nothing. -/
theorem sources_put_new (hd : n.isDir) (hc : n.child? a = none)
    (h : ∀ path : Path, new.sources (path.join a) a = []) (path : Path) (name : String) :
    (n.put a new).sources path name = n.sources path name := by
  cases n with
  | file bytes => cases hd
  | dir shared entries =>
    have hnew : entrySources path (putEntry a new entries) =
        entrySources path entries ++ [(a, [])] := by
      rw [putEntry_of_lookup_eq_none hc, entrySources_append, entrySources, entrySources, h]
    rw [put, Node.sources, Node.sources, hnew, flatten_sortByName, List.filter_append,
      List.filter_cons_of_neg (by simp), List.filter_nil, List.append_nil, ← flatten_sortByName]

theorem sources_empty (shared : Bool) (path : Path) (name : String) :
    (dir shared []).sources path name = [] := by
  rw [Node.sources, entrySources]
  split <;> simp [sortByName]

/-- A log is no source, wherever it stands. -/
theorem sources_log (h : Log.suffix <:+ a.toList) (bytes : List UInt8) (path : Path) :
    (file bytes).sources (path.join a) a = [] := by
  rw [Node.sources, Path.isSource_of_suffix (path.suffix_join h)]
  rfl

/-! ### What the search does not notice -/

/-- A directory in place of a directory or the same file, with the same sources. -/
structure Alike (x x' : Node) : Prop where
  /-- A directory is one. -/
  isDir : x.isDir → x'.isDir
  /-- A file is the same. -/
  file {bytes : List UInt8} : x = .file bytes → x' = .file bytes
  /-- The sources are the same. -/
  sources (path : Path) (name : String) : x'.sources path name = x.sources path name

theorem Alike.of_isDir {x x' : Node} (hd : x.isDir) (hd' : x'.isDir)
    (h : ∀ path name, x'.sources path name = x.sources path name) : x.Alike x' :=
  ⟨fun _ => hd', fun hfile => absurd hfile (ne_file_of_isDir hd _), h⟩

/-- A new child without sources is not noticed. -/
theorem alike_put_new (hd : n.isDir) (hc : n.child? a = none)
    (h : ∀ path : Path, new.sources (path.join a) a = []) : n.Alike (n.put a new) :=
  .of_isDir hd (isDir_put.trans hd) (sources_put_new hd hc h)

theorem inherited_alike : Inherited Alike where
  refl _ := ⟨id, id, fun _ _ => rfl⟩
  put hc h := .of_isDir (isDir_of_child? hc) (isDir_put.trans (isDir_of_child? hc))
    (sources_put hc h.sources)

end Node

theorem Disk.respected_alike : Disk.Respected Node.Alike where
  toInherited := Node.inherited_alike
  trans h h' := ⟨h'.isDir ∘ h.isDir, h'.file ∘ h.file,
    fun path name => (h'.sources path name).trans (h.sources path name)⟩
  create hd hc := Node.alike_put_new hd hc fun _ => Node.sources_empty false _ _
  share shared entries := .of_isDir rfl rfl fun path name => by rw [Node.sources, Node.sources]

end StyleAudit
