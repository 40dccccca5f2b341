import Mathlib.Data.List.Basic
import Mathlib.Order.Bounds.Basic
import Mathlib.Order.Nat
import StyleAudit.Proofs.Source.Render
import StyleAudit.Rule.Check

/-!
# Line endings and the bytes of a source

The rule on line endings looks at the terminators of lines, which the cut of a source has set apart
from their texts.  In the bytes, a terminated line is a line feed, and its terminator is a matter of
the byte before it:

* `Document.terminated_ofBytes` : the terminated lines of a document are the line feeds of its
  source, in order, each on the line after as many as stand before it;
* `Rule.evaluate_lineEndings` : so there is a finding iff the source has both kinds of line feeds,
  at the first one that is not of the kind of the first of all.  What follows the last line feed
  does not matter.
-/

namespace StyleAudit

/-! ### Line feeds -/

/-- A line feed is at the position. -/
def FeedAt (bytes : List UInt8) (i : Nat) : Prop := bytes[i]? = some 0x0A

/-- A carriage return is directly before the position. -/
def AfterReturn (bytes : List UInt8) (i : Nat) : Prop := 0 < i ∧ bytes[i - 1]? = some 0x0D

instance (bytes : List UInt8) (i : Nat) : Decidable (FeedAt bytes i) :=
  inferInstanceAs (Decidable (_ = _))

instance (bytes : List UInt8) (i : Nat) : Decidable (AfterReturn bytes i) :=
  inferInstanceAs (Decidable (_ ∧ _))

/-- The positions of the line feeds, in order. -/
def feeds (bytes : List UInt8) : List Nat := bytes.findIdxs (· == 0x0A)

/-- The terminator that a line feed at the position makes. -/
def feedEnding (bytes : List UInt8) (i : Nat) : Ending :=
  if (bytes.take i).getLast? = some 0x0D then .crlf else .lf

/-- The number of the line that a line feed at the position ends. -/
def feedLine (bytes : List UInt8) (i : Nat) : Nat := 1 + (bytes.take i).count 0x0A

section Feeds

variable {bytes rest : List UInt8} {i : Nat}

theorem mem_feeds_iff : i ∈ feeds bytes ↔ FeedAt bytes i := by
  rw [feeds, List.mem_findIdxs_iff_exists_getElem_pos, FeedAt, List.getElem?_eq_some_iff]
  simp only [beq_iff_eq]

theorem FeedAt.lt (h : FeedAt bytes i) : i < bytes.length :=
  (List.getElem?_eq_some_iff.1 h).1

theorem pairwise_feeds (bytes : List UInt8) : (feeds bytes).Pairwise (· < ·) :=
  List.pairwise_findIdxs

theorem findIdxs_eq_nil (h : 0x0A ∉ bytes) (start : Nat) :
    bytes.findIdxs (· == 0x0A) start = [] := by
  rw [List.findIdxs_eq_nil_iff]
  rintro b hb
  exact beq_eq_false_iff_ne.2 (ne_of_mem_of_not_mem hb h)

theorem feedEnding_eq_crlf_iff (h : FeedAt bytes i) :
    feedEnding bytes i = .crlf ↔ AfterReturn bytes i := by
  have hif : feedEnding bytes i = .crlf ↔ (bytes.take i).getLast? = some 0x0D := by
    rw [feedEnding]
    split_ifs with hlast <;> simp [hlast]
  rw [hif, AfterReturn]
  cases i with
  | zero => simp
  | succ j =>
    have hj : j < bytes.length := Nat.lt_of_succ_lt h.lt
    simp [List.getLast?_take, hj]

/-- Two line feeds make the same terminator if a carriage return is before both or neither. -/
theorem feedEnding_ne_iff {j : Nat} (hi : FeedAt bytes i) (hj : FeedAt bytes j) :
    feedEnding bytes i ≠ feedEnding bytes j ↔ (AfterReturn bytes i ↔ ¬AfterReturn bytes j) := by
  rw [← feedEnding_eq_crlf_iff hi, ← feedEnding_eq_crlf_iff hj]
  unfold feedEnding
  split_ifs <;> simp

/-- What stands behind the last line feed has no part in any. -/
theorem feeds_append (h : 0x0A ∉ rest) (bytes : List UInt8) :
    feeds (bytes ++ rest) = feeds bytes := by
  rw [feeds, List.findIdxs_append, findIdxs_eq_nil h, List.append_nil, feeds]

theorem take_append_of_feedAt (h : FeedAt bytes i) (rest : List UInt8) :
    (bytes ++ rest).take i = bytes.take i :=
  List.take_append_of_le_length h.lt.le

end Feeds

/-! ### Marks -/

/-- The number of the line that a line feed ends, and its terminator. -/
def feedMark (bytes : List UInt8) (i : Nat) : Nat × Ending := (feedLine bytes i, feedEnding bytes i)

/-- The marks of the line feeds in bytes that follow others. -/
def feedMarks (above bytes : List UInt8) : List (Nat × Ending) :=
  (bytes.findIdxs (· == 0x0A) above.length).map (feedMark (above ++ bytes))

theorem feedMarks_of_notMem {bytes : List UInt8} (h : 0x0A ∉ bytes) (above : List UInt8) :
    feedMarks above bytes = [] := by
  rw [feedMarks, findIdxs_eq_nil h, List.map_nil]

/-- The first line feed ends the line that the bytes before have come to. -/
theorem feedMarks_append_lf {piece : List UInt8} (h : 0x0A ∉ piece) (above rest : List UInt8) :
    feedMarks above (piece ++ 0x0A :: rest) =
      (1 + above.count 0x0A, if (above ++ piece).getLast? = some 0x0D then .crlf else .lf) ::
        feedMarks (above ++ piece ++ [0x0A]) rest := by
  have hfirst : feedMark (above ++ (piece ++ 0x0A :: rest)) (above.length + piece.length) =
      (1 + above.count 0x0A, if (above ++ piece).getLast? = some 0x0D then .crlf else .lf) := by
    rw [← List.append_assoc, ← List.length_append, feedMark, feedLine, feedEnding, List.take_left,
      List.count_append, List.count_eq_zero_of_not_mem h, Nat.add_zero]
  rw [feedMarks, List.findIdxs_append, findIdxs_eq_nil h, List.nil_append, List.findIdxs_cons,
    if_pos (by rfl), List.map_cons, hfirst, feedMarks]
  simp only [List.length_append, List.length_singleton, List.append_assoc, List.singleton_append,
    Nat.add_assoc]

/-! ### Terminated lines -/

/-- The number of a line and its terminator. -/
def Line.mark (l : Line) : Nat × Ending := (l.number, l.ending)

/-- Lines that a terminator ends. -/
def Document.terminated (d : Document) : List Line := d.lines.filter fun l => l.ending != .none

namespace Document

/-- The marks of lines below bytes that were cut off before. -/
theorem terminated_number {raws : List RawLine} (h : RawLine.Canonical raws) {above : List UInt8}
    (habove : above.getLast? ≠ some 0x0D) :
    ((number (1 + above.count 0x0A) raws).filter fun l => l.ending != .none).map Line.mark =
      feedMarks above (raws.flatMap RawLine.render) := by
  induction raws generalizing above with
  | nil => rfl
  | cons raw raws ih =>
    obtain ⟨bytes, ending⟩ := raw
    obtain ⟨hlf, hcr, hn⟩ := Cut.head h
    -- The line feed of this line is counted by the lines below it.
    have hrest : ∀ piece : List UInt8, 0x0A ∉ piece →
        ((number (1 + above.count 0x0A + 1) raws).filter fun l => l.ending != .none).map Line.mark =
          feedMarks (above ++ piece ++ [0x0A]) (raws.flatMap RawLine.render) := by
      intro piece hpiece
      rw [← ih (Cut.tail h) (by simp), List.count_append, List.count_append,
        List.count_eq_zero_of_not_mem hpiece]
      rfl
    rw [List.flatMap_cons, RawLine.render, number]
    cases ending with
    | lf =>
      have hlast : (above ++ bytes).getLast? ≠ some 0x0D := by
        rw [List.getLast?_append]
        cases hb : bytes.getLast? with
        | none => exact habove
        | some b => simpa [hb] using hcr rfl
      have hbytes : bytes ++ Ending.lf.bytes ++ raws.flatMap RawLine.render =
          bytes ++ 0x0A :: raws.flatMap RawLine.render := by
        simp [Ending.bytes]
      rw [List.filter_cons_of_pos rfl, List.map_cons, hrest bytes hlf, hbytes,
        feedMarks_append_lf hlf, if_neg hlast]
      rfl
    | crlf =>
      have hlf' : 0x0A ∉ bytes ++ [0x0D] := by simpa using hlf
      have hbytes : bytes ++ Ending.crlf.bytes ++ raws.flatMap RawLine.render =
          bytes ++ [0x0D] ++ 0x0A :: raws.flatMap RawLine.render := by
        simp [Ending.bytes]
      rw [List.filter_cons_of_pos rfl, List.map_cons, hrest _ hlf', hbytes,
        feedMarks_append_lf hlf', if_pos (by simp)]
      rfl
    | none =>
      obtain rfl : raws = [] := List.map_eq_nil_iff.1 (hn rfl).2
      rw [List.filter_cons_of_neg (by simp [Line.ofRaw]), Ending.bytes, List.flatMap_nil,
        List.append_nil, List.append_nil, feedMarks_of_notMem hlf]
      rfl

/-- **Terminated lines are line feeds.** -/
theorem terminated_ofBytes (path : Path) (bytes : List UInt8) :
    (ofBytes path bytes).terminated.map Line.mark = (feeds bytes).map (feedMark bytes) := by
  have hstart : ([] : List UInt8).getLast? ≠ some 0x0D := by simp
  have h := terminated_number (RawLine.canonical_split bytes) hstart
  rw [RawLine.render_split] at h
  exact h

end Document

/-! ### The rule -/

theorem isLeast_of_forall_lt {p : Nat → Prop} {i : Nat} (hi : p i) (h : ∀ j < i, ¬p j) :
    IsLeast {j | p j} i :=
  ⟨hi, fun j hj => Nat.not_lt.1 fun hlt => h j hlt hj⟩

/-- In an ascending list the first item with a property is the least one. -/
theorem find?_eq_some_iff_isLeast {items : List Nat} (h : items.Pairwise (· < ·)) {p : Nat → Bool}
    {i : Nat} : items.find? p = some i ↔ IsLeast {j | j ∈ items ∧ p j} i := by
  constructor
  · intro hfind
    obtain ⟨hi, front, back, rfl, hfront⟩ := List.find?_eq_some_iff_append.1 hfind
    refine ⟨⟨by simp, hi⟩, ?_⟩
    rintro j ⟨hj, hpj⟩
    rcases List.mem_append.1 hj with hj | hj
    · exact absurd hpj (by simpa using hfront j hj)
    · rcases List.mem_cons.1 hj with rfl | hj
      · exact Nat.le_refl _
      · exact ((List.pairwise_cons.1 (List.pairwise_append.1 h).2.1).1 j hj).le
  · rintro ⟨⟨hi, hpi⟩, hleast⟩
    obtain ⟨j, hfind⟩ := Option.isSome_iff_exists.1 (List.find?_isSome.2 ⟨i, hi, hpi⟩)
    have hij : i ≤ j := hleast ⟨List.mem_of_find?_eq_some hfind, List.find?_some hfind⟩
    obtain ⟨-, front, back, rfl, hfront⟩ := List.find?_eq_some_iff_append.1 hfind
    rcases List.mem_append.1 hi with hi | hi
    · exact absurd hpi (by simpa using hfront i hi)
    · rcases List.mem_cons.1 hi with rfl | hi
      · exact hfind
      · have := (List.pairwise_cons.1 (List.pairwise_append.1 h).2.1).1 i hi
        omega

namespace Rule

/-- The first mark whose terminator is not that of the first one of all. -/
def firstOdd? : List (Nat × Ending) → Option (Nat × Ending)
  | [] => none
  | first :: rest => rest.find? fun m => m.2 != first.2

/-- The rule looks at nothing but the marks of terminated lines. -/
theorem lineEndings_eq (d : Document) :
    lineEndings d = ((firstOdd? (d.terminated.map Line.mark)).map fun m =>
      .of .lineEndings m.1
        "Inconsistent line endings found in the script. Use either CRLF or LF, not both."
      ).toList := by
  rw [lineEndings, ← Document.terminated]
  cases d.terminated with
  | nil => rfl
  | cons first rest =>
    dsimp only
    rw [List.map_cons, firstOdd?, List.find?_map, Option.map_map]
    rfl

/-- Line feeds with another terminator than that of the first one. -/
theorem firstOdd?_feeds (bytes : List UInt8) (m : Nat × Ending) :
    firstOdd? ((feeds bytes).map (feedMark bytes)) = some m ↔
      ∃ first i, IsLeast {j | FeedAt bytes j} first ∧
        IsLeast {j | FeedAt bytes j ∧ (AfterReturn bytes j ↔ ¬AfterReturn bytes first)} i ∧
        m = feedMark bytes i := by
  have hmem : ∀ j, FeedAt bytes j ↔ j ∈ feeds bytes := fun j => mem_feeds_iff.symm
  have hsorted := pairwise_feeds bytes
  cases hfeeds : feeds bytes with
  | nil =>
    rw [hfeeds] at hmem
    refine iff_of_false (by simp [firstOdd?]) ?_
    rintro ⟨first, -, ⟨hfirst, -⟩, -⟩
    exact List.not_mem_nil ((hmem first).1 hfirst)
  | cons f rest =>
    rw [hfeeds] at hmem hsorted
    obtain ⟨hlt, hrest⟩ := List.pairwise_cons.1 hsorted
    have hf : FeedAt bytes f := (hmem f).2 List.mem_cons_self
    have hleast : IsLeast {j | FeedAt bytes j} f := by
      refine ⟨hf, fun j hj => ?_⟩
      rcases List.mem_cons.1 ((hmem j).1 hj) with rfl | hj
      · exact Nat.le_refl _
      · exact (hlt j hj).le
    -- The first line feed does not differ from itself, so that it may be counted in.
    have hodd : {j | j ∈ rest ∧ (feedEnding bytes j != feedEnding bytes f) = true} =
        {j | FeedAt bytes j ∧ (AfterReturn bytes j ↔ ¬AfterReturn bytes f)} := by
      ext j
      rw [Set.mem_ofPred_eq, Set.mem_ofPred_eq, bne_iff_ne]
      constructor
      · rintro ⟨hj, hne⟩
        have hj : FeedAt bytes j := (hmem j).2 (List.mem_cons_of_mem _ hj)
        exact ⟨hj, (feedEnding_ne_iff hj hf).1 hne⟩
      · rintro ⟨hj, hne⟩
        have hne := (feedEnding_ne_iff hj hf).2 hne
        rcases List.mem_cons.1 ((hmem j).1 hj) with rfl | hj
        · exact absurd rfl hne
        · exact ⟨hj, hne⟩
    have hfind (i : Nat) := find?_eq_some_iff_isLeast hrest
      (p := fun j => feedEnding bytes j != feedEnding bytes f) (i := i)
    simp only [hodd] at hfind
    rw [List.map_cons, firstOdd?, List.find?_map, Option.map_eq_some_iff]
    constructor
    · rintro ⟨i, hi, rfl⟩
      exact ⟨f, i, hleast, (hfind i).1 hi, rfl⟩
    · rintro ⟨first, i, hfirst, hi, rfl⟩
      obtain rfl := hfirst.unique hleast
      exact ⟨i, (hfind i).2 hi, rfl⟩

/-- There are both kinds of line feeds iff one differs from the first. -/
theorem exists_odd_iff (bytes : List UInt8) :
    (∃ first i, IsLeast {j | FeedAt bytes j} first ∧
        IsLeast {j | FeedAt bytes j ∧ (AfterReturn bytes j ↔ ¬AfterReturn bytes first)} i) ↔
      (∃ i, FeedAt bytes i ∧ AfterReturn bytes i) ∧ ∃ i, FeedAt bytes i ∧ ¬AfterReturn bytes i := by
  constructor
  · rintro ⟨first, i, ⟨hfirst, -⟩, ⟨⟨hi, hodd⟩, -⟩⟩
    by_cases hreturn : AfterReturn bytes first
    · exact ⟨⟨first, hfirst, hreturn⟩, i, hi, fun h => hodd.1 h hreturn⟩
    · exact ⟨⟨i, hi, hodd.2 hreturn⟩, first, hfirst, hreturn⟩
  · rintro ⟨⟨i, hi, hreturn⟩, i', hi', hreturn'⟩
    classical
    obtain ⟨first, hfirst⟩ : ∃ first, IsLeast {j | FeedAt bytes j} first :=
      ⟨_, Nat.isLeast_find ⟨i, hi⟩⟩
    have hodd : ∃ j, FeedAt bytes j ∧ (AfterReturn bytes j ↔ ¬AfterReturn bytes first) := by
      by_cases h : AfterReturn bytes first
      · exact ⟨i', hi', by simp [h, hreturn']⟩
      · exact ⟨i, hi, by simp [h, hreturn]⟩
    exact ⟨first, _, hfirst, Nat.isLeast_find hodd⟩

/-- What stands behind the last line feed has no part in the finding. -/
theorem lineEndings_append {rest : List UInt8} (h : 0x0A ∉ rest) (path : Path)
    (bytes : List UInt8) :
    lineEndings (.ofBytes path (bytes ++ rest)) = lineEndings (.ofBytes path bytes) := by
  have hmarks : (feeds bytes).map (feedMark (bytes ++ rest)) =
      (feeds bytes).map (feedMark bytes) := by
    refine List.map_congr_left fun i hi => ?_
    rw [feedMark, feedLine, feedEnding, take_append_of_feedAt (mem_feeds_iff.1 hi)]
    rfl
  rw [lineEndings_eq, lineEndings_eq, Document.terminated_ofBytes, Document.terminated_ofBytes,
    feeds_append h, hmarks]

/-- **The rule on line endings, in terms of bytes.**  It makes one finding at most, and one iff a
carriage return is before some line feeds and not before others.  The finding is on the line that
ends with the first line feed that is not like the first one of all, which is the line after as many
as there are line feeds before it.  Bytes behind the last line feed, an unterminated last line, do
not change it. -/
theorem evaluate_lineEndings (probe : LeakProbe) (path : Path) (bytes : List UInt8) (s : Session) :
    ∃ found, evaluate probe .lineEndings (.ofBytes path bytes) s = (.ok found, s) ∧
      found.length ≤ 1 ∧
      (found.length = 1 ↔ (∃ i, FeedAt bytes i ∧ AfterReturn bytes i) ∧
        ∃ i, FeedAt bytes i ∧ ¬AfterReturn bytes i) ∧
      (∀ x, x ∈ found ↔ ∃ first i, IsLeast {j | FeedAt bytes j} first ∧
        IsLeast {j | FeedAt bytes j ∧ (AfterReturn bytes j ↔ ¬AfterReturn bytes first)} i ∧
        x = .of .lineEndings (1 + (bytes.take i).count 0x0A)
          "Inconsistent line endings found in the script. Use either CRLF or LF, not both.") ∧
      ∀ rest, 0x0A ∉ rest →
        evaluate probe .lineEndings (.ofBytes path (bytes ++ rest)) s = (.ok found, s) := by
  have hfound : lineEndings (.ofBytes path bytes) = _ := lineEndings_eq _
  have hodd := firstOdd?_feeds bytes
  rw [Document.terminated_ofBytes] at hfound
  refine ⟨lineEndings (.ofBytes path bytes), rfl, ?_, ?_, fun x => ?_, fun rest hrest => ?_⟩
  · rw [hfound]
    cases firstOdd? ((feeds bytes).map (feedMark bytes)) <;> simp
  · rw [hfound, ← exists_odd_iff]
    cases hfirst : firstOdd? ((feeds bytes).map (feedMark bytes)) with
    | none =>
      refine iff_of_false (by simp) ?_
      rintro ⟨first, i, hf, hi⟩
      have hsome := (hodd _).2 ⟨first, i, hf, hi, rfl⟩
      rw [hfirst] at hsome
      cases hsome
    | some m =>
      obtain ⟨first, i, hf, hi, -⟩ := (hodd m).1 hfirst
      exact iff_of_true (by simp) ⟨first, i, hf, hi⟩
  · rw [hfound, Option.mem_toList, Option.map_eq_some_iff]
    constructor
    · rintro ⟨m, hm, rfl⟩
      obtain ⟨first, i, hf, hi, rfl⟩ := (hodd m).1 hm
      exact ⟨first, i, hf, hi, rfl⟩
    · rintro ⟨first, i, hf, hi, rfl⟩
      exact ⟨_, (hodd _).2 ⟨first, i, hf, hi, rfl⟩, rfl⟩
  · change (Except.ok (lineEndings _), s) = _
    rw [lineEndings_append hrest]

/-- Two line feeds after carriage returns and one without. -/
def mixedSource : List UInt8 := [0x61, 0x0D, 0x0A, 0x62, 0x0A, 0x63, 0x0D, 0x0A]

theorem evaluate_lineEndings_mixed :
    0x0A ∉ [0x7D, 0x0D] ∧ ∀ probe s,
      evaluate probe .lineEndings (.ofBytes ⟨"t.c"⟩ (mixedSource ++ [0x7D, 0x0D])) s =
        (.ok [.of .lineEndings 2
          "Inconsistent line endings found in the script. Use either CRLF or LF, not both."],
          s) := by
  refine ⟨by decide, fun probe s => ?_⟩
  obtain ⟨found, -, hle, -, hmem, hrest⟩ := evaluate_lineEndings probe ⟨"t.c"⟩ mixedSource s
  have hfirst : IsLeast {j | FeedAt mixedSource j} 2 :=
    isLeast_of_forall_lt (by decide) (by decide)
  have hodd : IsLeast {j | FeedAt mixedSource j ∧
      (AfterReturn mixedSource j ↔ ¬AfterReturn mixedSource 2)} 4 :=
    isLeast_of_forall_lt (by decide) (by decide)
  have hx := (hmem _).2 ⟨2, 4, hfirst, hodd, rfl⟩
  obtain ⟨x, rfl⟩ := List.length_eq_one_iff.1 (Nat.le_antisymm hle (List.length_pos_of_mem hx))
  rw [hrest _ (by decide), ← List.mem_singleton.1 hx]
  rfl

end Rule

end StyleAudit
