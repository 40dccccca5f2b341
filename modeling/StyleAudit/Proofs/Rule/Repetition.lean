import Mathlib.Data.List.Basic
import Mathlib.Data.List.Infix
import Mathlib.Data.List.Nodup
import Mathlib.Data.List.Range
import StyleAudit.Proofs.Rule.Order

/-!
# Repeated sequences of lines

The rule on repetitions cuts a document into overlapping blocks, gathers the blocks of each text,
and reports the texts with enough blocks.  What it reports can be told without blocks.  A sequence
of texts stands at some positions of a document (`Document.StandsAt`), `Document.starts` lists the
lines there, and a sequence is repeated if its lines are substantial and it has enough starts
(`Document.Repeats`).

`Rule.evaluate_repetition` says that the findings are those of the repeated sequences, one for each,
in the order of their first starts.  Gathering keeps all blocks of a text and no others
(`Rule.snd_of_mem_occurrences`), and the blocks of a text start where it stands
(`Rule.starts_substantialBlocks`).
-/

namespace StyleAudit

/-! ### Sequences in a document -/

namespace Document

/-- The lines behind the first `i` lines start with the texts, as they stand. -/
def StandsAt (d : Document) (texts : List (List Char)) (i : Nat) : Prop :=
  texts <+: (d.lines.map (·.text)).drop i

instance (d : Document) (texts : List (List Char)) (i : Nat) : Decidable (d.StandsAt texts i) :=
  inferInstanceAs (Decidable (_ <+: _))

/-- The lines at which the texts start, by number. -/
def starts (d : Document) (texts : List (List Char)) : List Nat :=
  ((List.range d.size).filter fun i => d.StandsAt texts i).map (· + 1)

/-- The texts are a sequence that the thresholds ask to report. -/
structure Repeats (d : Document) (t : Thresholds) (texts : List (List Char)) : Prop where
  /-- It has as many lines as are compared. -/
  length_eq : texts.length = t.sequenceLength
  /-- Every line has more than one character between its blank edges. -/
  substantial : ∀ text ∈ texts, 1 < (Text.trim text).length
  /-- It starts at as many lines as are needed, and at one at least. -/
  often : max t.repetitionThreshold 1 ≤ (d.starts texts).length

/-- What is reported about a sequence, with its lines one below the other and all its starts. -/
def repetition (d : Document) (texts : List (List Char)) : Diagnostic :=
  .of .repetition ((d.starts texts).headD 0)
    ("Repetition detected: Sequence '" ++ String.ofList (Text.trim (['\n'].intercalate texts)) ++
      "' repeated " ++ toString (d.starts texts).length ++
      " times. Consider refactoring as a function. Lines: " ++
      ", ".intercalate ((d.starts texts).map toString))

variable {d : Document} {texts : List (List Char)}

theorem mem_starts_iff {n : Nat} :
    n ∈ d.starts texts ↔ ∃ i < d.size, d.StandsAt texts i ∧ n = i + 1 := by
  simp only [starts, List.mem_map, List.mem_filter, List.mem_range, decide_eq_true_eq, and_assoc,
    eq_comm (b := n)]

theorem pairwise_starts (d : Document) (texts : List (List Char)) :
    (d.starts texts).Pairwise (· < ·) := by
  rw [starts, List.pairwise_map]
  exact (List.pairwise_lt_range.sublist List.filter_sublist).imp Nat.succ_lt_succ

theorem Repeats.head?_starts {t : Thresholds} (h : d.Repeats t texts) :
    (d.starts texts).head? = some (d.repetition texts).line := by
  have hpos : 0 < (d.starts texts).length := (le_max_right _ 1).trans h.often
  obtain ⟨n, ns, hn⟩ := List.exists_cons_of_length_pos hpos
  rw [repetition, hn]
  rfl

/-- A sequence that is repeated fits into the document. -/
theorem Repeats.sequenceLength_le {t : Thresholds} (h : d.Repeats t texts) :
    t.sequenceLength ≤ d.size := by
  obtain ⟨i, -, hi, -⟩ := mem_starts_iff.1 (List.mem_of_mem_head? h.head?_starts)
  have hle := hi.length_le
  rw [h.length_eq, List.length_drop, List.length_map] at hle
  exact hle.trans (Nat.sub_le _ _)

end Document

namespace Rule

/-! ### Gathering -/

variable {bs : List Block} {texts : List (List Char)}

theorem lookup_filter_of_ne {texts' : List (List Char)} (h : texts ≠ texts')
    (os : List (List (List Char) × List Nat)) :
    (os.filter (·.1 != texts')).lookup texts = os.lookup texts := by
  induction os with
  | nil => rfl
  | cons o os ih =>
    obtain ⟨key, ns⟩ := o
    rw [List.filter_cons]
    split_ifs with hk
    · rw [List.lookup_cons, List.lookup_cons, ih]
    · have hne : (texts == key) = false := by
        rw [show key = texts' by simpa using hk]
        exact beq_false_of_ne h
      rw [ih, List.lookup_cons, hne]

theorem lookup_occurrences (bs : List Block) (texts : List (List Char)) :
    ((occurrences bs).lookup texts).getD [] = (bs.filter (·.texts == texts)).map (·.start) := by
  induction bs with
  | nil => rfl
  | cons b bs ih =>
    rw [occurrences, List.lookup_cons, List.filter_cons]
    by_cases h : b.texts = texts
    · simp [h, ih]
    · rw [beq_false_of_ne (Ne.symm h), beq_false_of_ne h, lookup_filter_of_ne (Ne.symm h)]
      exact ih

/-- A text is listed with the starts of all its blocks. -/
theorem snd_of_mem_occurrences {o : List (List Char) × List Nat} (h : o ∈ occurrences bs) :
    o.2 = (bs.filter (·.texts == o.1)).map (·.start) := by
  induction bs with
  | nil => cases h
  | cons b bs ih =>
    rw [occurrences] at h
    rcases List.mem_cons.1 h with rfl | h
    · rw [List.filter_cons_of_pos (by simp), List.map_cons, ← lookup_occurrences]
    · obtain ⟨hmem, hne⟩ := List.mem_filter.1 h
      have hb : ¬ (b.texts == o.1) = true := fun he => bne_iff_ne.1 hne (beq_iff_eq.1 he).symm
      rw [List.filter_cons, if_neg hb]
      exact ih hmem

theorem mem_map_fst_occurrences :
    texts ∈ (occurrences bs).map Prod.fst ↔ ∃ b ∈ bs, b.texts = texts := by
  induction bs with
  | nil => simp [occurrences]
  | cons b bs ih =>
    rw [occurrences, List.map_cons, List.mem_cons, List.exists_mem_cons_iff, ← ih]
    by_cases h : b.texts = texts
    · simp [h]
    · simp [h, Ne.symm h]

theorem nodup_occurrences (bs : List Block) : ((occurrences bs).map Prod.fst).Nodup := by
  induction bs with
  | nil => exact .nil
  | cons b bs ih =>
    rw [occurrences, List.map_cons, List.nodup_cons]
    exact ⟨by simp, ih.sublist (List.filter_sublist.map _)⟩

/-! ### Blocks -/

theorem length_of_mem_blocks {length : Nat} {ls : List Line} {b : Block}
    (h : b ∈ blocks length ls) : b.texts.length = length := by
  induction ls with
  | nil => cases h
  | cons l ls ih =>
    rw [blocks] at h
    split_ifs at h with hlen
    · cases h
    · rcases List.mem_cons.1 h with rfl | h
      · rw [List.length_map]
        exact Nat.le_antisymm (List.length_take_le _ _) (Nat.le_of_not_lt hlen)
      · exact ih h

theorem blocks_eq_nil {length : Nat} {ls : List Line} (h : ls.length < length) :
    blocks length ls = [] := by
  cases ls with
  | nil => rfl
  | cons l ls =>
    rw [blocks]
    exact if_pos ((List.length_take_le' _ _).trans_lt h)

/-- A line that does not start a block leaves too few lines for a later one. -/
theorem blocks_cons (length : Nat) (l : Line) (ls : List Line) :
    blocks length (l :: ls) =
      (if length ≤ (l :: ls).length then
        [⟨l.number, ((l :: ls).take length).map (·.text)⟩] else []) ++ blocks length ls := by
  by_cases h : length ≤ (l :: ls).length
  · rw [blocks, if_neg (by rw [List.length_take_of_le h]; exact Nat.lt_irrefl _), if_pos h]
    rfl
  · rw [if_neg h, blocks_eq_nil (Nat.lt_of_not_le h), blocks_eq_nil (by simp at h; omega)]
    rfl

/-- The first lines make up the block of a text iff the text stands there. -/
theorem firstBlock_filter (texts : List (List Char)) (l : Line) (ls : List Line) :
    ((if texts.length ≤ (l :: ls).length then
        [⟨l.number, ((l :: ls).take texts.length).map (·.text)⟩] else []).filter
          fun b : Block => b.texts == texts).map (·.start) =
      if texts <+: (l :: ls).map (·.text) then [l.number] else [] := by
  by_cases hp : texts <+: (l :: ls).map (·.text)
  · have hlen : texts.length ≤ (l :: ls).length := by simpa using hp.length_le
    have he : ((l :: ls).take texts.length).map (·.text) = texts := by
      rw [List.map_take]
      exact (List.prefix_iff_eq_take.1 hp).symm
    rw [if_pos hlen, if_pos hp, List.filter_cons, if_pos (beq_iff_eq.2 he)]
    rfl
  · rw [if_neg hp]
    split_ifs
    · have he : ((l :: ls).take texts.length).map (·.text) ≠ texts := fun he => hp <| by
        rw [← he, List.map_take]
        exact List.take_prefix _ _
      rw [List.filter_cons, if_neg (mt beq_iff_eq.1 he)]
      rfl
    · rfl

/-- The blocks of a text start where it stands. -/
theorem starts_blocks {first : Nat} {ls : List Line}
    (hn : ∀ i l, ls[i]? = some l → l.number = first + i) :
    ((blocks texts.length ls).filter (·.texts == texts)).map (·.start) =
      ((List.range ls.length).filter fun i => texts <+: (ls.map (·.text)).drop i).map
        (first + ·) := by
  induction ls generalizing first with
  | nil => rfl
  | cons l ls ih =>
    have hl : l.number = first := hn 0 l rfl
    have hrest (i : Nat) (l' : Line) (h : ls[i]? = some l') : l'.number = first + 1 + i := by
      rw [hn (i + 1) l' h]
      omega
    have hshift : ((List.range ls.length).map Nat.succ).filter
          (fun i => texts <+: ((l :: ls).map (·.text)).drop i) =
        ((List.range ls.length).filter fun i => texts <+: (ls.map (·.text)).drop i).map
          Nat.succ := by
      rw [List.filter_map]
      rfl
    have hsucc : (first + ·) ∘ Nat.succ = (first + 1 + ·) := by
      funext i
      simp only [Function.comp_apply]
      omega
    rw [List.length_cons, List.range_succ_eq_map, List.filter_cons, hshift, blocks_cons,
      List.filter_append, List.map_append, ih hrest, firstBlock_filter, hl, List.drop_zero]
    simp only [decide_eq_true_eq]
    split_ifs
    · rw [List.map_cons, List.map_map, hsucc]
      rfl
    · rw [List.map_map, hsucc]
      rfl

section Numbered

variable {d : Document} {t : Thresholds} (hn : ∀ i l, d.lines[i]? = some l → l.number = i + 1)
include hn

/-- The blocks of a text with substantial lines start where it stands. -/
theorem starts_substantialBlocks (hs : ∀ text ∈ texts, 1 < (Text.trim text).length) :
    ((substantialBlocks texts.length d).filter (·.texts == texts)).map (·.start) =
      d.starts texts := by
  have hfilter : (substantialBlocks texts.length d).filter (·.texts == texts) =
      (blocks texts.length d.lines).filter (·.texts == texts) := by
    rw [substantialBlocks, List.filter_filter]
    refine List.filter_congr fun b _ => ?_
    rw [Bool.and_eq_left_iff_imp]
    intro he
    rw [beq_iff_eq.1 he]
    simpa [isSubstantial] using hs
  have hn' : ∀ i l, d.lines[i]? = some l → l.number = 1 + i := fun i l h => by
    rw [hn i l h, Nat.add_comm]
  rw [hfilter, starts_blocks hn', Document.starts]
  simp only [Nat.add_comm 1]
  rfl

/-! ### Reports -/

/-- What is gathered from a document: sequences of substantial lines, with their starts. -/
theorem of_mem_gathered {length : Nat} {o : List (List Char) × List Nat}
    (h : o ∈ occurrences (substantialBlocks length d)) :
    o.1.length = length ∧ (∀ text ∈ o.1, 1 < (Text.trim text).length) ∧ o.2 = d.starts o.1 := by
  obtain ⟨b, hb, he⟩ := mem_map_fst_occurrences.1 (List.mem_map_of_mem h)
  obtain ⟨hblock, hall⟩ := List.mem_filter.1 hb
  have hlen : o.1.length = length := he ▸ length_of_mem_blocks hblock
  have hs : ∀ text ∈ o.1, 1 < (Text.trim text).length := by
    rw [← he]
    simpa [isSubstantial] using hall
  refine ⟨hlen, hs, ?_⟩
  rw [snd_of_mem_occurrences h, ← hlen]
  exact starts_substantialBlocks hn hs

/-- The texts that are reported are the sequences that are repeated. -/
theorem mem_reported_iff :
    texts ∈ ((occurrences (substantialBlocks t.sequenceLength d)).filter fun o =>
        t.repetitionThreshold ≤ o.2.length).map Prod.fst ↔ d.Repeats t texts := by
  constructor
  · intro h
    obtain ⟨o, ho, rfl⟩ := List.mem_map.1 h
    obtain ⟨ho, hoften⟩ := List.mem_filter.1 ho
    obtain ⟨hlen, hs, hstarts⟩ := of_mem_gathered hn ho
    have hpos := (of_mem_occurrences ho).1
    rw [hstarts] at hoften hpos
    exact ⟨hlen, hs, Nat.max_le.2 ⟨of_decide_eq_true hoften, hpos⟩⟩
  · rintro ⟨hlen, hs, hoften⟩
    obtain ⟨hthreshold, hpos⟩ := Nat.max_le.1 hoften
    -- a start is that of a block, which is gathered
    obtain ⟨n, hstart⟩ := List.exists_mem_of_length_pos hpos
    rw [← starts_substantialBlocks hn hs, hlen] at hstart
    obtain ⟨b, hb, -⟩ := List.mem_map.1 hstart
    obtain ⟨hb, he⟩ := List.mem_filter.1 hb
    obtain ⟨o, ho, hfst⟩ := List.mem_map.1 (mem_map_fst_occurrences.2 ⟨b, hb, beq_iff_eq.1 he⟩)
    refine List.mem_map.2 ⟨o, List.mem_filter.2 ⟨ho, ?_⟩, hfst⟩
    rw [(of_mem_gathered hn ho).2.2, hfst]
    exact decide_eq_true hthreshold

/-- Findings on sequences are those of the document. -/
theorem repetition_eq_map :
    repetition t d =
      (((occurrences (substantialBlocks t.sequenceLength d)).filter fun o =>
        t.repetitionThreshold ≤ o.2.length).map Prod.fst).map d.repetition := by
  rw [repetition, List.map_map]
  refine List.map_congr_left fun o ho => ?_
  rw [(of_mem_gathered hn (List.mem_filter.1 ho).1).2.2]
  rfl

end Numbered

/-- **The rule on repetitions reports each repeated sequence once, with all its starts.**  For every
document that is loaded and in every session, the findings correspond to the sequences that the
thresholds ask for, one by one and in the order of their first starts, on which they are anchored.
The starts that a message counts and lists are all lines at which the sequence stands, ascending.
Sequences without lines cannot be searched for, and a document that is shorter than a sequence has
no finding. -/
theorem evaluate_repetition (probe : LeakProbe) (path : Path) (bytes : List UInt8) (s : Session) :
    let d := Document.ofBytes path bytes
    let t := s.thresholds
    let found := (evaluate probe .repetition d s).1
    (t.sequenceLength = 0 →
      found = .error
        (.failure (.rule "modularization_repetition" "sequence length must be at least 1"))) ∧
    (0 < t.sequenceLength → ∃ sequences : List (List (List Char)),
      found = .ok (sequences.map d.repetition) ∧ sequences.Nodup ∧
      (∀ texts, texts ∈ sequences ↔ d.Repeats t texts) ∧
      sequences.Pairwise (fun texts texts' =>
        (d.repetition texts).line < (d.repetition texts').line) ∧
      ∀ texts ∈ sequences, (d.starts texts).head? = some (d.repetition texts).line) ∧
    (0 < t.sequenceLength → d.size < t.sequenceLength → found = .ok []) ∧
    ∀ texts, (d.starts texts).Pairwise (· < ·) ∧
      ∀ n, n ∈ d.starts texts ↔ ∃ i < d.size, d.StandsAt texts i ∧ n = i + 1 := by
  intro d t found
  have hn := (Document.canonical_ofBytes path bytes).number
  have hfound (hpos : 0 < t.sequenceLength) : found = .ok (repetition t d) :=
    if_neg (Nat.pos_iff_ne_zero.1 hpos)
  refine ⟨fun hzero => if_pos hzero, fun hpos => ?_, fun hpos hsize => ?_,
    fun texts => ⟨Document.pairwise_starts d texts, fun n => Document.mem_starts_iff⟩⟩
  · refine ⟨((occurrences (substantialBlocks t.sequenceLength d)).filter fun o =>
      t.repetitionThreshold ≤ o.2.length).map Prod.fst, ?_, ?_, fun texts => mem_reported_iff hn,
      ?_, fun texts h => ((mem_reported_iff hn).1 h).head?_starts⟩
    · rw [hfound hpos, repetition_eq_map hn]
    · exact (nodup_occurrences _).sublist (List.filter_sublist.map _)
    · have hasc := evaluateRepetition_ascending (Document.ascending_ofBytes path bytes)
        (hfound hpos)
      rw [repetition_eq_map hn] at hasc
      exact (List.pairwise_map (f := d.repetition)).1 hasc
  · rw [hfound hpos, repetition_eq_map hn, List.map_eq_nil_iff.2]
    refine List.eq_nil_iff_forall_not_mem.2 fun texts h => ?_
    exact absurd ((mem_reported_iff hn).1 h).sequenceLength_le (Nat.not_le_of_lt hsize)

/-- A sequence that overlaps itself, and another one that is repeated. -/
theorem evaluate_repetition_overlapping :
    let d := Document.ofBytes ⟨"a.c"⟩ (Utf8.encode "aa\naa\naa\nbb\naa\nbb".toList)
    let s := Session.start .c { sequenceLength := 2, repetitionThreshold := 2 } .ofLines .empty
    let aa := ['a', 'a']
    let bb := ['b', 'b']
    let found := (evaluate (fun _ _ disk => (.ok ⟨true, none⟩, disk)) .repetition d s).1
    0 < s.thresholds.sequenceLength ∧ d.starts [aa, aa] = [1, 2] ∧ d.starts [aa, bb] = [3, 5] ∧
      (∃ sequences : List (List (List Char)), found = .ok (sequences.map d.repetition) ∧
        [aa, aa] ∈ sequences ∧ [aa, bb] ∈ sequences ∧ [bb, aa] ∉ sequences) ∧
      found = .ok
        [.of .repetition 1 ("Repetition detected: Sequence 'aa\naa' repeated 2 times. " ++
            "Consider refactoring as a function. Lines: 1, 2"),
          .of .repetition 3 ("Repetition detected: Sequence 'aa\nbb' repeated 2 times. " ++
            "Consider refactoring as a function. Lines: 3, 5")] := by
  intro d s aa bb found
  have haa : d.starts [aa, aa] = [1, 2] := by decide +kernel
  have hab : d.starts [aa, bb] = [3, 5] := by decide +kernel
  obtain ⟨sequences, hfound, -, hmem, -⟩ :=
    (evaluate_repetition (fun _ _ disk => (.ok ⟨true, none⟩, disk)) ⟨"a.c"⟩
      (Utf8.encode "aa\naa\naa\nbb\naa\nbb".toList) s).2.1 (by decide)
  refine ⟨by decide, haa, hab, ⟨sequences, hfound, (hmem _).2 ⟨rfl, by decide, ?_⟩,
    (hmem _).2 ⟨rfl, by decide, ?_⟩, fun h => ?_⟩, congrArg Except.ok (by decide +kernel)⟩
  · rw [haa]
    decide
  · rw [hab]
    decide
  · have hba : d.starts [bb, aa] = [4] := by decide +kernel
    have hoften := ((hmem _).1 h).often
    rw [hba] at hoften
    revert hoften
    decide

end Rule

end StyleAudit
