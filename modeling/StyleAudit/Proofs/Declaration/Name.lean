import Mathlib.Data.List.TakeWhile
import StyleAudit.Declaration.Pattern

/-!
# Names hold no blanks

The name of a function consists of characters that may stand in one
(`Declaration.isFunctionChar_of_mem`), and these are not blank: the tables of word characters list
none of the 25 blanks (`Text.not_isWord_of_isBlank`).  So a name is never cut at a blank, and it is
found in a line wherever it stands.
-/

namespace StyleAudit

namespace Text

/-- The code points of the blanks. -/
def blankCodes : List Nat :=
  List.range' 0x09 5 ++ [0x20, 0x85, 0xA0, 0x1680] ++ List.range' 0x2000 11 ++
    [0x2028, 0x2029, 0x202F, 0x205F, 0x3000]

theorem toNat_mem_blankCodes {c : Char} (h : isBlank c = true) : c.toNat ∈ blankCodes := by
  simp only [isBlank, Bool.or_eq_true, Bool.and_eq_true, decide_eq_true_eq, beq_iff_eq] at h
  simp only [blankCodes, List.mem_append, List.mem_range'_1, List.mem_cons, List.not_mem_nil]
  omega

/-- No blank is a word character. -/
theorem not_isWord_of_isBlank {c : Char} (h : isBlank c = true) : isWord c = false := by
  have hall : ∀ n ∈ blankCodes, isWord (Char.ofNat n) = false := by decide +kernel
  have hc := hall c.toNat (toNat_mem_blankCodes h)
  rwa [Char.ofNat_toNat] at hc

end Text

namespace Declaration

open Text

theorem not_isBlank_of_isFunctionChar {c : Char} (h : isFunctionChar c = true) :
    isBlank c = false := by
  by_contra hb
  rw [Bool.not_eq_false] at hb
  simp only [isFunctionChar, not_isWord_of_isBlank hb, Bool.false_or, Bool.or_eq_true,
    beq_iff_eq] at h
  rcases h with rfl | rfl <;> revert hb <;> decide

theorem isFunctionChar_of_mem {line name : List Char} (h : functionName? line = some name) :
    ∀ c ∈ name, isFunctionChar c = true := by
  unfold functionName? definedFunction at h
  split at h
  · cases h
  · split_ifs at h
    simp only [nameOfHead, Option.ite_none_right_eq_some, Option.some.injEq] at h
    obtain ⟨-, rfl⟩ := h
    -- the name is a run of such characters, read from its end
    exact fun c hc => List.mem_takeWhile_imp (List.mem_reverse.1 hc)

/-- The name of a function holds no blanks. -/
theorem not_isBlank_of_mem {line name : List Char} (h : functionName? line = some name) :
    ∀ c ∈ name, isBlank c = false := fun c hc =>
  not_isBlank_of_isFunctionChar (isFunctionChar_of_mem h c hc)

end Declaration

end StyleAudit
