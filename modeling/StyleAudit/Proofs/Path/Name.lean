import StyleAudit.Path

/-!
# Names at the end of paths

The last segment of a path is what follows its last slash.  A path that ends in a text without
slash therefore has a name that ends in it (`Path.exists_fileName?`), and if the text is a dot and
something without dots, no other extension (`Path.extension?_of_suffix`).  The extension of a name
is what follows its last dot, if something stands before that dot and the name is not `..`
(`Path.extensionOf_eq_some_iff`).
-/

namespace StyleAudit

namespace Text

variable {sep : Char} {s t : List Char}

theorem splitAtChar_ne_nil (sep : Char) (t : List Char) : splitAtChar sep t ≠ [] := by
  cases t with
  | nil => simp [splitAtChar]
  | cons c t =>
    rw [splitAtChar]
    split
    · simp
    · split <;> simp

/-- Parts hold no separator. -/
theorem notMem_of_mem_splitAtChar {part : List Char} (h : part ∈ splitAtChar sep t) :
    sep ∉ part := by
  induction t generalizing part with
  | nil => simp_all [splitAtChar]
  | cons c t ih =>
    rw [splitAtChar] at h
    split at h
    · rcases List.mem_cons.1 h with rfl | h
      · exact List.not_mem_nil
      · exact ih h
    · next hc =>
      cases hs : splitAtChar sep t with
      | nil => exact absurd hs (splitAtChar_ne_nil sep t)
      | cons first parts =>
        rw [hs] at h ih
        rcases List.mem_cons.1 h with rfl | h
        · exact List.not_mem_cons_of_ne_of_not_mem (Ne.symm hc) (ih List.mem_cons_self)
        · exact ih (List.mem_cons_of_mem _ h)

/-- A separator cuts a text for good. -/
theorem splitAtChar_append_cons (sep : Char) (s t : List Char) :
    splitAtChar sep (s ++ sep :: t) = splitAtChar sep s ++ splitAtChar sep t := by
  induction s with
  | nil => simp [splitAtChar]
  | cons c s ih =>
    rw [List.cons_append, splitAtChar, splitAtChar, ih]
    split
    · rfl
    · cases hs : splitAtChar sep s with
      | nil => exact absurd hs (splitAtChar_ne_nil sep s)
      | cons part parts => rfl

theorem splitAtChar_of_not_mem (h : sep ∉ t) : splitAtChar sep t = [t] := by
  induction t with
  | nil => rfl
  | cons c t ih =>
    have hc : sep ≠ c := List.ne_of_not_mem_cons h
    have ht : sep ∉ t := List.not_mem_of_not_mem_cons h
    rw [splitAtChar, if_neg (Ne.symm hc), ih ht]

/-- The last part ends in what follows the last separator, whatever that is. -/
theorem exists_splitAtChar_append (sep : Char) (s : List Char) :
    ∃ parts last, ∀ t, sep ∉ t → splitAtChar sep (s ++ t) = parts ++ [last ++ t] := by
  induction s with
  | nil => exact ⟨[], [], fun t ht => splitAtChar_of_not_mem ht⟩
  | cons c s ih =>
    obtain ⟨parts, last, hs⟩ := ih
    by_cases hc : c = sep
    · refine ⟨[] :: parts, last, fun t ht => ?_⟩
      rw [List.cons_append, splitAtChar, if_pos hc, hs t ht, List.cons_append]
    · cases parts with
      | nil =>
        refine ⟨[], c :: last, fun t ht => ?_⟩
        rw [List.cons_append, splitAtChar, if_neg hc, hs t ht]
        rfl
      | cons part parts =>
        refine ⟨(c :: part) :: parts, last, fun t ht => ?_⟩
        rw [List.cons_append, splitAtChar, if_neg hc, hs t ht]
        rfl

end Text

namespace Path

variable {p : Path} {t ext : List Char}

theorem exists_segmentsFrom_concat (offset : Nat) (segs : List (List Char)) (seg : List Char) :
    ∃ stop, segmentsFrom offset (segs ++ [seg]) = segmentsFrom offset segs ++ [(seg, stop)] := by
  induction segs generalizing offset with
  | nil => exact ⟨_, rfl⟩
  | cons s segs ih =>
    obtain ⟨stop, hstop⟩ := ih (offset + s.length + 1)
    exact ⟨stop, by rw [List.cons_append, segmentsFrom, hstop, segmentsFrom, List.cons_append]⟩

/-- A text that may be the name of an entry of a directory. -/
structure IsName (name : List Char) : Prop where
  /-- There is something. -/
  ne_nil : name ≠ []
  /-- It is not the directory itself. -/
  ne_here : name ≠ ['.']
  /-- It is not the directory above. -/
  ne_up : name ≠ ['.', '.']
  /-- It is one segment. -/
  slash_notMem : '/' ∉ name

instance (name : List Char) : Decidable (IsName name) :=
  decidable_of_iff (name ≠ [] ∧ name ≠ ['.'] ∧ name ≠ ['.', '.'] ∧ '/' ∉ name)
    ⟨fun h => ⟨h.1, h.2.1, h.2.2.1, h.2.2.2⟩,
      fun h => ⟨h.ne_nil, h.ne_here, h.ne_up, h.slash_notMem⟩⟩

theorem isName_of_length {name : List Char} (h : 2 < name.length) (hslash : '/' ∉ name) :
    IsName name := by
  refine ⟨?_, ?_, ?_, hslash⟩ <;>
  · rintro rfl
    simp at h

theorem IsName.component?_eq {name : List Char} (h : IsName name) (first : Bool) :
    component? first name = some (.name name) := by
  rw [component?, if_neg (by simpa using h.ne_nil), if_neg (by simpa using h.ne_here),
    if_neg (by simpa using h.ne_up)]

/-- The last segment is the last component if it is a name. -/
theorem getLast?_placed {t seg : List Char} {parts : List (List Char)}
    (hparts : Text.splitAtChar '/' t = parts ++ [seg]) (hseg : IsName seg) :
    ((placed t).map (·.1)).getLast? = some (.name seg) := by
  obtain ⟨stop, hstop⟩ := exists_segmentsFrom_concat 0 parts seg
  have hname := hseg.component?_eq
  unfold placed
  rw [hparts, hstop]
  dsimp only
  split
  · simp [hname, List.filterMap_append, List.getLast?_cons]
  · next hnil => simp at hnil
  · next s rest _ hcons =>
    cases hfront : segmentsFrom 0 parts with
    | nil =>
      rw [hfront] at hcons
      cases hcons
      simp [hname]
    | cons first others =>
      rw [hfront] at hcons
      cases hcons
      simp [hname, List.filterMap_append]

theorem fileName?_of_splitAtChar {seg : List Char} {parts : List (List Char)}
    (hparts : Text.splitAtChar '/' p.text.toList = parts ++ [seg]) (hseg : IsName seg) :
    p.fileName? = some seg := by
  rw [fileName?, components, getLast?_placed hparts hseg]

/-- A path that ends in a text without slash has a name that ends in it. -/
theorem exists_fileName? (h : t <:+ p.text.toList) (hslash : '/' ∉ t) (hlength : 2 < t.length) :
    ∃ front, p.fileName? = some (front ++ t) := by
  obtain ⟨s, hs⟩ := h
  obtain ⟨parts, last, hparts⟩ := Text.exists_splitAtChar_append '/' s
  specialize hparts t hslash
  rw [hs] at hparts
  have hmem : last ++ t ∈ Text.splitAtChar '/' p.text.toList := by simp [hparts]
  have hname : IsName (last ++ t) :=
    isName_of_length (by rw [List.length_append]; omega) (Text.notMem_of_mem_splitAtChar hmem)
  exact ⟨last, fileName?_of_splitAtChar hparts hname⟩

/-! ### Extensions -/

/-- A name is cut at its last dot. -/
theorem atLastDot_eq_some_iff {name stem : List Char} :
    atLastDot name = some (stem, ext) ↔ name = stem ++ '.' :: ext ∧ '.' ∉ ext := by
  have hcut : ∀ stem ext : List Char, '.' ∉ ext →
      atLastDot (stem ++ '.' :: ext) = some (stem, ext) := by
    intro stem ext h
    have hsplit : Text.splitAtChar '.' (stem ++ '.' :: ext).reverse =
        ext.reverse :: Text.splitAtChar '.' stem.reverse := by
      rw [List.reverse_append, List.reverse_cons, List.append_assoc, List.singleton_append,
        Text.splitAtChar_append_cons, Text.splitAtChar_of_not_mem (by rwa [List.mem_reverse])]
      rfl
    obtain ⟨part, parts, hparts⟩ := List.exists_cons_of_ne_nil
      (Text.splitAtChar_ne_nil '.' stem.reverse)
    have htake : (stem ++ '.' :: ext).length - ext.reverse.length - 1 = stem.length := by
      rw [List.length_append, List.length_cons, List.length_reverse]
      omega
    rw [atLastDot, hsplit, hparts]
    dsimp only
    rw [htake, List.take_left, List.reverse_reverse]
  constructor
  · intro h
    by_cases hdot : '.' ∈ name
    · -- The last dot is the first one of the reversed name.
      obtain ⟨back, front, hrev, hback⟩ := List.eq_append_cons_of_mem (List.mem_reverse.2 hdot)
      have hname : name = front.reverse ++ '.' :: back.reverse := by
        rw [← List.reverse_inj, hrev]
        simp
      have hback : '.' ∉ back.reverse := by rwa [List.mem_reverse]
      rw [hname, hcut _ _ hback] at h
      cases h
      exact ⟨hname, hback⟩
    · rw [atLastDot, Text.splitAtChar_of_not_mem (by rwa [List.mem_reverse])] at h
      cases h
  · rintro ⟨rfl, h⟩
    exact hcut stem ext h

/-- A path that ends in a dot and an extension has no other one. -/
theorem extension?_of_suffix (h : '.' :: ext <:+ p.text.toList) (hslash : '/' ∉ ext)
    (hdot : '.' ∉ ext) (hlength : 1 < ext.length) :
    p.extension? = none ∨ p.extension? = some ext := by
  have hslash' : '/' ∉ '.' :: ext := List.not_mem_cons_of_ne_of_not_mem (by decide) hslash
  obtain ⟨stem, hname⟩ := exists_fileName? h hslash' (by rw [List.length_cons]; omega)
  have hlast : atLastDot (stem ++ '.' :: ext) = some (stem, ext) :=
    atLastDot_eq_some_iff.2 ⟨rfl, hdot⟩
  rw [extension?, hname, Option.bind_some, extensionOf, hlast]
  dsimp only
  split
  · exact .inl rfl
  · exact .inr rfl

/-- What a name has for an extension. -/
theorem extensionOf_eq_some_iff {name : List Char} :
    extensionOf name = some ext ↔
      ∃ stem, name = stem ++ '.' :: ext ∧ stem ≠ [] ∧ '.' ∉ ext ∧ name ≠ ['.', '.'] := by
  rw [extensionOf]
  cases hlast : atLastDot name with
  | none =>
    refine iff_of_false (by simp) ?_
    rintro ⟨stem, rfl, -, hdot, -⟩
    rw [atLastDot_eq_some_iff.2 ⟨rfl, hdot⟩] at hlast
    cases hlast
  | some cut =>
    obtain ⟨stem, last⟩ := cut
    obtain ⟨rfl, hdot⟩ := atLastDot_eq_some_iff.1 hlast
    dsimp only
    constructor
    · intro h
      split at h
      · cases h
      · next hif =>
        cases h
        simp only [Bool.or_eq_true, List.isEmpty_iff, beq_iff_eq, not_or] at hif
        exact ⟨stem, rfl, hif.1, hdot, hif.2⟩
    · rintro ⟨stem', heq, hne, hdot', hup⟩
      have hcut := atLastDot_eq_some_iff.2 ⟨heq, hdot'⟩
      rw [hlast] at hcut
      cases hcut
      rw [if_neg (by simpa [hne] using hup)]

end Path

end StyleAudit
