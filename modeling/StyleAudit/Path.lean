import StyleAudit.Text.Lines

/-!
# Paths

A path is kept as it was written, since messages show it that way.  Its meaning is the list of
its components: empty segments and inner `.` segments do not count, a leading `.` does, and `..`
is kept as it stands.  Paths are compared and ordered by components.
-/

namespace StyleAudit

/-- A path as written. -/
structure Path where
  /-- The text of the path. -/
  text : String
  deriving DecidableEq

namespace Path

/-- What a segment of a path stands for. -/
inductive Component where
  /-- The root directory. -/
  | root
  /-- A leading `.`. -/
  | here
  /-- `..`. -/
  | up
  /-- A name. -/
  | name (text : List Char)
  deriving DecidableEq

/-- The segments between slashes, each with the offset just behind it. -/
def segmentsFrom (offset : Nat) : List (List Char) → List (List Char × Nat)
  | [] => []
  | seg :: segs => (seg, offset + seg.length) :: segmentsFrom (offset + seg.length + 1) segs

/-- The component of a segment; `first` tells whether it opens a path without root. -/
def component? (first : Bool) (segment : List Char) : Option Component :=
  if segment == [] then none
  else if segment == ['.'] then (if first then some .here else none)
  else if segment == ['.', '.'] then some .up
  else some (.name segment)

/-- The components of a text, each with the offset just behind it. -/
def placed (t : List Char) : List (Component × Nat) :=
  let segments := segmentsFrom 0 (Text.splitAtChar '/' t)
  match t, segments with
  | '/' :: _, _ => (.root, 1) :: segments.filterMap fun s => (component? false s.1).map (·, s.2)
  | _, [] => []
  | _, s :: rest =>
    ((component? true s.1).map (·, s.2)).toList ++
      rest.filterMap fun s => (component? false s.1).map (·, s.2)

/-- The components of a path. -/
def components (p : Path) : List Component := (placed p.text.toList).map (·.1)

/-- Two paths with the same components. -/
def Same (p q : Path) : Prop := p.components = q.components

instance (p q : Path) : Decidable (Same p q) := inferInstanceAs (Decidable (_ = _))

/-- The last component, if it is a name. -/
def fileName? (p : Path) : Option (List Char) :=
  match p.components.getLast? with
  | some (.name n) => some n
  | _ => none

/-- What stands before and after the last dot of a text, if it has one. -/
def atLastDot (t : List Char) : Option (List Char × List Char) :=
  match Text.splitAtChar '.' t.reverse with
  | ext :: _ :: _ => some ((t.take (t.length - ext.length - 1)), ext.reverse)
  | _ => none

/-- A file name without its extension.  A dot in front starts a name, not an extension. -/
def stemOf (name : List Char) : List Char :=
  match atLastDot name with
  | some (stem, _) => if stem.isEmpty || name == ['.', '.'] then name else stem
  | none => name

/-- What follows the last dot of a file name, unless that dot is its first character. -/
def extensionOf (name : List Char) : Option (List Char) :=
  match atLastDot name with
  | some (stem, ext) => if stem.isEmpty || name == ['.', '.'] then none else some ext
  | none => none

/-- The file name without its extension. -/
def stem? (p : Path) : Option (List Char) := p.fileName?.map stemOf

/-- The extension of the file name. -/
def extension? (p : Path) : Option (List Char) := p.fileName?.bind extensionOf

/-- The path as written up to its last component; the root and the empty path have none. -/
def parent? (p : Path) : Option Path :=
  match (placed p.text.toList).reverse with
  | [] => none
  | (.root, _) :: _ => none
  | [_] => some ⟨""⟩
  | _ :: (_, stop) :: _ => some ⟨String.ofList (p.text.toList.take stop)⟩

/-- The path starts at the root. -/
def isAbsolute (p : Path) : Bool := ['/'].isPrefixOf p.text.toList

/-- Appends a relative path; an absolute one replaces what stands before it. -/
def join (p : Path) (rest : String) : Path :=
  if (Path.mk rest).isAbsolute || p.text == "" then ⟨rest⟩
  else if p.text.toList.getLast? == some '/' then ⟨p.text ++ rest⟩
  else ⟨p.text ++ "/" ++ rest⟩

/-! ### Order -/

/-- Texts in the order of their code points. -/
def compareChars : List Char → List Char → Ordering
  | [], [] => .eq
  | [], _ :: _ => .lt
  | _ :: _, [] => .gt
  | a :: s, b :: t => (compare a.toNat b.toNat).then (compareChars s t)

/-- Components in the order root, `.`, `..`, names. -/
def Component.rank : Component → Nat
  | .root => 0
  | .here => 1
  | .up => 2
  | .name _ => 3

/-- The order of components. -/
def Component.compare : Component → Component → Ordering
  | .name a, .name b => compareChars a b
  | a, b => Ord.compare a.rank b.rank

/-- Lists of components in lexicographic order. -/
def compareComponents : List Component → List Component → Ordering
  | [], [] => .eq
  | [], _ :: _ => .lt
  | _ :: _, [] => .gt
  | a :: s, b :: t => (a.compare b).then (compareComponents s t)

/-- Paths in the order of their components. -/
def compare (p q : Path) : Ordering := compareComponents p.components q.components

end Path

end StyleAudit
