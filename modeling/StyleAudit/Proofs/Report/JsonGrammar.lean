import StyleAudit.Proofs.Text.Numeral
import StyleAudit.Report.Json

/-!
# The grammar of JSON

What is relied on of a writer of JSON is that its texts belong to the grammar of the format and
stand for the values that were written (`JsonValue.Writes`); how it breaks lines and which
characters it escapes is its own affair.  In the grammar, a character of a string is spelled as it
stands, behind a backslash or by the digits of its code point (`JsonValue.Spells`), and blanks may
stand between all other parts of a value (`JsonValue.Written`).  The writer of reports keeps to it
(`JsonValue.writes_write`).
-/

namespace StyleAudit.JsonValue

/-! ### Strings -/

/-- The character that an escape stands for, but for code points. -/
def escaped? (c : Char) : Option Char :=
  if c = '"' ∨ c = '\\' ∨ c = '/' then some c
  else if c = 'b' then some (Char.ofNat 0x08)
  else if c = 'f' then some (Char.ofNat 0x0C)
  else if c = 'n' then some '\n'
  else if c = 'r' then some '\r'
  else if c = 't' then some '\t'
  else none

/-- The ways to spell a character in a string. -/
inductive Spells : Char → List Char → Prop
  /-- As it stands. -/
  | plain {c : Char} : c ≠ '"' → c ≠ '\\' → 0x20 ≤ c.toNat → Spells c [c]
  /-- By a character behind a backslash. -/
  | escape {c e : Char} : escaped? e = some c → Spells c ['\\', e]
  /-- By the four digits of its code point. -/
  | code {c p q r s : Char} {i j k l : Nat} : Text.digitValue? 16 p = some i →
      Text.digitValue? 16 q = some j → Text.digitValue? 16 r = some k →
      Text.digitValue? 16 s = some l → 16 * (16 * (16 * i + j) + k) + l = c.toNat →
      Spells c ['\\', 'u', p, q, r, s]

/-- The ways to spell a text in a string, character by character. -/
inductive Spelled : List Char → List Char → Prop
  /-- The empty text. -/
  | nil : Spelled [] []
  /-- A character and what is behind it. -/
  | cons {c : Char} {s t rest : List Char} : Spells c t → Spelled s rest →
      Spelled (c :: s) (t ++ rest)

/-! ### Values -/

/-- A blank between the parts of a text. -/
def isSpace (c : Char) : Bool := c == ' ' || c == '\n' || c == '\r' || c == '\t'

/-- Any number of blanks. -/
def Blanks (b : List Char) : Prop := ∀ c ∈ b, isSpace c

mutual

/-- The ways to write a value. -/
inductive Written : JsonValue → List Char → Prop
  /-- A truth value. -/
  | true : Written (.bool true) "true".toList
  /-- The other one. -/
  | false : Written (.bool false) "false".toList
  /-- A number. -/
  | nat (n : Nat) : Written (.nat n) (Nat.toDigits 10 n)
  /-- A string. -/
  | str {s : String} {t : List Char} : Spelled s.toList t → Written (.str s) ('"' :: (t ++ ['"']))
  /-- A list without items. -/
  | nil {b : List Char} : Blanks b → Written (.list []) ('[' :: (b ++ [']']))
  /-- A list with items. -/
  | list {b t rest : List Char} {item : JsonValue} {items : List JsonValue} : Blanks b →
      Written item t → WrittenItems items rest →
      Written (.list (item :: items)) ('[' :: (b ++ (t ++ rest)))
  /-- An object without members. -/
  | empty {b : List Char} : Blanks b → Written (.object []) ('\x7b' :: (b ++ ['\x7d']))
  /-- An object with members. -/
  | object {b t rest : List Char} {m : String × JsonValue} {members : List (String × JsonValue)} :
      Blanks b → WrittenMember m t → WrittenMembers members rest →
      Written (.object (m :: members)) ('\x7b' :: (b ++ (t ++ rest)))

/-- What follows an item of a list, up to its end. -/
inductive WrittenItems : List JsonValue → List Char → Prop
  /-- The list ends. -/
  | close {b : List Char} : Blanks b → WrittenItems [] (b ++ [']'])
  /-- Another item. -/
  | more {b b' t rest : List Char} {item : JsonValue} {items : List JsonValue} : Blanks b →
      Blanks b' → Written item t → WrittenItems items rest →
      WrittenItems (item :: items) (b ++ ',' :: (b' ++ (t ++ rest)))

/-- The ways to write a member of an object. -/
inductive WrittenMember : String × JsonValue → List Char → Prop
  /-- A key and a value. -/
  | member {key : String} {v : JsonValue} {k b b' t : List Char} : Spelled key.toList k →
      Blanks b → Blanks b' → Written v t →
      WrittenMember (key, v) ('"' :: (k ++ '"' :: (b ++ ':' :: (b' ++ t))))

/-- What follows a member of an object, up to its end. -/
inductive WrittenMembers : List (String × JsonValue) → List Char → Prop
  /-- The object ends. -/
  | close {b : List Char} : Blanks b → WrittenMembers [] (b ++ ['\x7d'])
  /-- Another member. -/
  | more {b b' t rest : List Char} {m : String × JsonValue} {members : List (String × JsonValue)} :
      Blanks b → Blanks b' → WrittenMember m t → WrittenMembers members rest →
      WrittenMembers (m :: members) (b ++ ',' :: (b' ++ (t ++ rest)))

end

/-- What is relied on of a writer: it writes every value in one of the ways of the format. -/
def Writes (write : JsonValue → List Char) : Prop := ∀ v, Written v (write v)

/-! ### The writer of reports -/

theorem digitValue?_hexDigit {n : Nat} (h : n < 16) :
    Text.digitValue? 16 (hexDigit n) = some n := by
  have hall : ∀ n : Fin 16, Text.digitValue? 16 (hexDigit n) = some n.1 := by decide
  exact hall ⟨n, h⟩

theorem spells_escapeChar (c : Char) : Spells c (escapeChar c) := by
  unfold escapeChar
  split_ifs with h₁ h₂ h₃ h₄ h₅ h₆ h₇ h₈
  · obtain rfl := eq_of_beq h₁
    exact .escape rfl
  · obtain rfl := eq_of_beq h₂
    exact .escape rfl
  · obtain rfl := eq_of_beq h₃
    exact .escape rfl
  · obtain rfl := eq_of_beq h₄
    exact .escape rfl
  · obtain rfl := eq_of_beq h₅
    exact .escape rfl
  · obtain rfl : c = Char.ofNat 0x08 := by rw [← eq_of_beq h₆, Char.ofNat_toNat]
    exact .escape rfl
  · obtain rfl : c = Char.ofNat 0x0C := by rw [← eq_of_beq h₇, Char.ofNat_toNat]
    exact .escape rfl
  · exact .code (i := 0) (j := 0) rfl rfl (digitValue?_hexDigit (by omega))
      (digitValue?_hexDigit (by omega)) (by omega)
  · simp only [beq_iff_eq] at h₁ h₂
    exact .plain h₁ h₂ (Nat.not_lt.1 h₈)

theorem spelled_escape (s : List Char) : Spelled s (s.flatMap escapeChar) := by
  induction s with
  | nil => exact .nil
  | cons c s ih => exact .cons (spells_escapeChar c) ih

theorem blanks_newline (level : Nat) : Blanks (newline level) := by
  intro c hc
  obtain rfl | hc := List.mem_cons.1 hc
  · rfl
  · rw [List.eq_of_mem_replicate hc]
    rfl

theorem blanks_nil : Blanks [] := fun _ h => absurd h List.not_mem_nil

theorem blanks_space : Blanks [' '] := List.forall_mem_singleton.2 rfl

theorem writtenMember_write (key : String) {v : JsonValue} {t : List Char} (h : Written v t) :
    WrittenMember (key, v) (quote key ++ ':' :: ' ' :: t) := by
  have hmember := WrittenMember.member (spelled_escape key.toList) blanks_nil blanks_space h
  simpa [quote] using hmember

mutual

theorem written_write (v : JsonValue) (level : Nat) : Written v (v.write level) := by
  match v with
  | .bool true => exact .true
  | .bool false => exact .false
  | .nat n =>
    rw [write, Text.toList_toString]
    exact .nat n
  | .str s => exact .str (spelled_escape s.toList)
  | .list [] => exact .nil blanks_nil
  | .list (item :: items) =>
    rw [write]
    simp only [List.cons_append, List.append_assoc]
    exact .list (blanks_newline _) (written_write item _) (written_writeItems items _ _)
  | .object [] => exact .empty blanks_nil
  | .object ((key, value) :: members) =>
    have hmember := writtenMember_write key (written_write value (level + 1))
    have hobject := Written.object (blanks_newline (level + 1)) hmember
      (written_writeMembers members (level + 1) level)
    simpa [write] using hobject

theorem written_writeItems (items : List JsonValue) (level outer : Nat) :
    WrittenItems items (writeItems level items ++ (newline outer ++ [']'])) := by
  match items with
  | [] => exact .close (blanks_newline outer)
  | item :: items =>
    rw [writeItems]
    simp only [List.cons_append, List.append_assoc]
    exact .more blanks_nil (blanks_newline _) (written_write item _) (written_writeItems items _ _)

theorem written_writeMembers (members : List (String × JsonValue)) (level outer : Nat) :
    WrittenMembers members (writeMembers level members ++ (newline outer ++ ['\x7d'])) := by
  match members with
  | [] => exact .close (blanks_newline outer)
  | (key, value) :: members =>
    have hmember := writtenMember_write key (written_write value level)
    have hmore := WrittenMembers.more blanks_nil (blanks_newline level) hmember
      (written_writeMembers members level outer)
    simpa [writeMembers] using hmore

end

/-- Reports are written in the format. -/
theorem writes_write (level : Nat) : Writes (write level) := fun v => written_write v level

end StyleAudit.JsonValue
