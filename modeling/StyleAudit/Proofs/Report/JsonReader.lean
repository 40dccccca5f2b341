import Mathlib.Data.List.Basic
import StyleAudit.Proofs.Report.JsonGrammar

/-!
# Reading JSON

`JsonValue.read` is a reader of JSON that knows nothing of the writer: a machine that takes one
character after the other and keeps a stack of the lists and objects around the value that it
reads.  It takes blanks wherever the format has them, every escape of the format, and numbers
without leading zeros.  What the values here cannot hold is refused: `null`, numbers that are not
natural, and escapes of half a character.

* a text in a string is read back, however it is spelled (`JsonValue.run_spelled`), and so is a
  number (`JsonValue.run_digits`);
* a value is read back in whatever way of the grammar it was written (`JsonValue.run_written`), and
  so from every writer that keeps to the grammar (`JsonValue.Writes.read_eq`).
-/

namespace StyleAudit.JsonValue

/-! ### The reader -/

/-- What is open around the value that is read. -/
inductive Frame where
  /-- A list, with the items before the value. -/
  | list (items : List JsonValue)
  /-- An object, with the members before the value and the key of the value. -/
  | object (members : List (String × JsonValue)) (key : String)

/-- What a string is for. -/
inductive Use where
  /-- It is a value. -/
  | value
  /-- It is a key of an object, behind other members. -/
  | key (members : List (String × JsonValue))

/-- What the reader expects, or what it is in the middle of. -/
inductive Mode where
  /-- A value is expected. -/
  | value
  /-- A key is expected, behind other members. -/
  | key (members : List (String × JsonValue))
  /-- A colon is expected. -/
  | colon (members : List (String × JsonValue)) (key : String)
  /-- In a word, of which `rest` is missing. -/
  | word (rest : List Char) (v : JsonValue)
  /-- In a number. -/
  | number (n : Nat)
  /-- In a string. -/
  | text (use : Use) (t : List Char)
  /-- Behind a backslash in a string. -/
  | escape (use : Use) (t : List Char)
  /-- In a code point of a string, with the digits that are missing. -/
  | code (use : Use) (t : List Char) (missing n : Nat)
  /-- A value has been read. -/
  | done (v : JsonValue)

/-- The state of the reader. -/
structure Reader where
  /-- What it expects. -/
  mode : Mode := .value
  /-- What is open around the value, the innermost first. -/
  stack : List Frame := []

/-- What is expected in a word of which `rest` is missing. -/
def Mode.ofWord (rest : List Char) (v : JsonValue) : Mode :=
  if rest.isEmpty then .done v else .word rest v

/-- What is expected behind a string. -/
def Use.mode (s : String) : Use → Mode
  | .value => .done (.str s)
  | .key members => .colon members s

namespace Reader

/-- Reads a character where a value is expected.  A list without items ends here. -/
def stepValue (c : Char) (stack : List Frame) : Option Reader :=
  if isSpace c then some ⟨.value, stack⟩
  else if c = '"' then some ⟨.text .value [], stack⟩
  else if c = '[' then some ⟨.value, .list [] :: stack⟩
  else if c = '\x7b' then some ⟨.key [], stack⟩
  else if c = 't' then some ⟨.word "rue".toList (.bool true), stack⟩
  else if c = 'f' then some ⟨.word "alse".toList (.bool false), stack⟩
  else if c.isDigit then some ⟨.number (c.toNat - '0'.toNat), stack⟩
  else match c, stack with
    | ']', .list [] :: stack => some ⟨.done (.list []), stack⟩
    | _, _ => none

/-- Reads a character where a key is expected.  An object without members ends here. -/
def stepKey (members : List (String × JsonValue)) (c : Char) (stack : List Frame) :
    Option Reader :=
  if isSpace c then some ⟨.key members, stack⟩
  else if c = '"' then some ⟨.text (.key members) [], stack⟩
  else if c = '\x7d' ∧ members.isEmpty then some ⟨.done (.object []), stack⟩
  else none

/-- Reads a character behind a value. -/
def stepDone (v : JsonValue) (c : Char) (stack : List Frame) : Option Reader :=
  if isSpace c then some ⟨.done v, stack⟩
  else match c, stack with
    | ',', .list items :: stack => some ⟨.value, .list (items ++ [v]) :: stack⟩
    | ']', .list items :: stack => some ⟨.done (.list (items ++ [v])), stack⟩
    | ',', .object members key :: stack => some ⟨.key (members ++ [(key, v)]), stack⟩
    | '\x7d', .object members key :: stack => some ⟨.done (.object (members ++ [(key, v)])), stack⟩
    | _, _ => none

/-- Reads a digit of a code point; behind the last one, it has to be that of a character. -/
def stepCode (use : Use) (t : List Char) (missing n : Nat) (c : Char) (stack : List Frame) :
    Option Reader :=
  (Text.digitValue? 16 c).bind fun d =>
    if 1 < missing then some ⟨.code use t (missing - 1) (16 * n + d), stack⟩
    else if (16 * n + d).isValidChar then
      some ⟨.text use (t ++ [Char.ofNat (16 * n + d)]), stack⟩
    else none

/-- Reads one character. -/
def step (r : Reader) (c : Char) : Option Reader :=
  match r.mode with
  | .value => stepValue c r.stack
  | .key members => stepKey members c r.stack
  | .colon members key =>
    if isSpace c then some r
    else if c = ':' then some ⟨.value, .object members key :: r.stack⟩
    else none
  | .word rest v =>
    if rest.head? = some c then some ⟨.ofWord rest.tail v, r.stack⟩ else none
  | .number n =>
    if c.isDigit then
      if n = 0 then none else some ⟨.number (10 * n + (c.toNat - '0'.toNat)), r.stack⟩
    else stepDone (.nat n) c r.stack
  | .text use t =>
    if c = '"' then some ⟨use.mode (String.ofList t), r.stack⟩
    else if c = '\\' then some ⟨.escape use t, r.stack⟩
    else if c.toNat < 0x20 then none
    else some ⟨.text use (t ++ [c]), r.stack⟩
  | .escape use t =>
    if c = 'u' then some ⟨.code use t 4 0, r.stack⟩
    else (escaped? c).map fun c => ⟨.text use (t ++ [c]), r.stack⟩
  | .code use t missing n => stepCode use t missing n c r.stack
  | .done v => stepDone v c r.stack

/-- Reads characters. -/
def run (r : Reader) (t : List Char) : Option Reader := t.foldlM step r

/-- The value at the end of a text. -/
def finish : Reader → Option JsonValue
  | ⟨.done v, []⟩ => some v
  | ⟨.number n, []⟩ => some (.nat n)
  | _ => none

end Reader

/-- The value that a text stands for, unless it is malformed. -/
def read (s : String) : Option JsonValue := (Reader.run {} s.toList).bind Reader.finish

/-! ### Strings and numbers -/

namespace Reader

theorem run_cons (r : Reader) (c : Char) (t : List Char) :
    r.run (c :: t) = (r.step c).bind (·.run t) := rfl

theorem run_append (r : Reader) (s t : List Char) :
    r.run (s ++ t) = (r.run s).bind (·.run t) :=
  List.foldlM_append

end Reader

open Reader

/-- A code point is read back from its digits. -/
theorem run_code {c p q r s : Char} {i j k l : Nat} (hp : Text.digitValue? 16 p = some i)
    (hq : Text.digitValue? 16 q = some j) (hr : Text.digitValue? 16 r = some k)
    (hs : Text.digitValue? 16 s = some l) (hc : 16 * (16 * (16 * i + j) + k) + l = c.toNat)
    (use : Use) (t : List Char) (stack : List Frame) :
    (Reader.mk (.text use t) stack).run ['\\', 'u', p, q, r, s] =
      some ⟨.text use (t ++ [c]), stack⟩ := by
  have hvalid : c.toNat.isValidChar := c.valid
  change (Reader.mk (.code use t 4 0) stack).run [p, q, r, s] = _
  simp [run, step, stepCode, hp, hq, hr, hs, hc, hvalid]

/-- A character in a string is read back. -/
theorem run_spells {c : Char} {s : List Char} (h : Spells c s) (use : Use) (t : List Char)
    (stack : List Frame) :
    (Reader.mk (.text use t) stack).run s = some ⟨.text use (t ++ [c]), stack⟩ := by
  cases h with
  | plain hquote hslash hcontrol => simp [run, step, hquote, hslash, Nat.not_lt.2 hcontrol]
  | @escape e he =>
    have hu : e ≠ 'u' := by
      rintro rfl
      have hnone : escaped? 'u' = none := by decide
      rw [hnone] at he
      cases he
    simp [run, step, hu, he]
  | code hp hq hr hs hc => exact run_code hp hq hr hs hc use t stack

theorem run_spelled {s spelling : List Char} (h : Spelled s spelling) (use : Use) (t : List Char)
    (stack : List Frame) :
    (Reader.mk (.text use t) stack).run spelling = some ⟨.text use (t ++ s), stack⟩ := by
  induction h generalizing t with
  | nil => rw [List.append_nil]; rfl
  | cons hc _ ih =>
    rw [run_append, run_spells hc, Option.bind_some, ih, List.append_assoc, List.singleton_append]

/-- A string is read back, whatever it is for. -/
theorem run_string {s : String} {spelling : List Char} (h : Spelled s.toList spelling) (use : Use)
    (stack : List Frame) (rest : List Char) :
    (Reader.mk (.text use []) stack).run (spelling ++ '"' :: rest) =
      (Reader.mk (use.mode s) stack).run rest := by
  rw [run_append, run_spelled h, Option.bind_some, List.nil_append, run_cons]
  simp [step]

theorem step_digit {d : Nat} (hd : d < 10) (stack : List Frame) :
    (Reader.mk .value stack).step d.digitChar = some ⟨.number d, stack⟩ :=
  match d with
  | 0 | 1 | 2 | 3 | 4 | 5 | 6 | 7 | 8 | 9 => rfl
  | _ + 10 => by omega

/-- The digits of a number are read back. -/
theorem run_digits (n : Nat) (stack : List Frame) :
    (Reader.mk .value stack).run (Nat.toDigits 10 n) = some ⟨.number n, stack⟩ := by
  induction n using Nat.strongRecOn with
  | ind n ih =>
  rcases Nat.lt_or_ge n 10 with hn | hn
  · rw [Nat.toDigits_of_lt_base hn, run_cons, step_digit hn]
    rfl
  · have hlast : n % 10 < 10 := Nat.mod_lt _ (by decide)
    have hpos : n / 10 ≠ 0 := by omega
    have hval : 10 * (n / 10) + n % 10 = n := Nat.div_add_mod _ _
    have hstep : (Reader.mk (.number (n / 10)) stack).step (n % 10).digitChar =
        some ⟨.number n, stack⟩ := by
      simp [step, hlast, hpos, Nat.toNat_digitChar_sub_48_of_lt_ten, hval]
    rw [Nat.toDigits_of_base_le (by decide) hn, run_append, ih (n / 10) (by omega),
      Option.bind_some, run_cons, hstep]
    rfl

/-! ### Values -/

/-- The reader behind a value.  The end of a number is seen only behind it. -/
def Reader.behind (v : JsonValue) (stack : List Frame) : Reader :=
  match v with
  | .nat n => ⟨.number n, stack⟩
  | v => ⟨.done v, stack⟩

theorem finish_behind (v : JsonValue) : (Reader.behind v []).finish = some v := by
  cases v <;> rfl

/-- Behind a value, the end of a number makes no difference. -/
theorem step_behind (v : JsonValue) (stack : List Frame) {c : Char} (hc : c.isDigit = false) :
    (Reader.behind v stack).step c = stepDone v c stack := by
  cases v with
  | nat n => simp [behind, step, hc]
  | bool b => rfl
  | str s => rfl
  | list items => rfl
  | object members => rfl

/-- Where blanks may stand, they are passed over. -/
theorem run_blanks {r : Reader} (h : ∀ c, isSpace c = true → r.step c = some r) {b : List Char}
    (hb : Blanks b) (rest : List Char) : r.run (b ++ rest) = r.run rest := by
  induction b with
  | nil => rfl
  | cons c b ih =>
    obtain ⟨hc, hb⟩ := List.forall_mem_cons.1 hb
    rw [List.cons_append, run_cons, h c hc, Option.bind_some, ih hb]

theorem run_blanks_value {b : List Char} (hb : Blanks b) (stack : List Frame) (rest : List Char) :
    (Reader.mk .value stack).run (b ++ rest) = (Reader.mk .value stack).run rest :=
  run_blanks (fun c hc => by simp [step, stepValue, hc]) hb rest

theorem run_blanks_key {b : List Char} (hb : Blanks b) (members : List (String × JsonValue))
    (stack : List Frame) (rest : List Char) :
    (Reader.mk (.key members) stack).run (b ++ rest) =
      (Reader.mk (.key members) stack).run rest :=
  run_blanks (fun c hc => by simp [step, stepKey, hc]) hb rest

theorem run_blanks_colon {b : List Char} (hb : Blanks b) (members : List (String × JsonValue))
    (key : String) (stack : List Frame) (rest : List Char) :
    (Reader.mk (.colon members key) stack).run (b ++ rest) =
      (Reader.mk (.colon members key) stack).run rest :=
  run_blanks (fun c hc => by simp [step, hc]) hb rest

/-- Behind a value, and blanks behind it, stands what ends it. -/
theorem run_behind {b : List Char} (hb : Blanks b) {c : Char} (hc : c.isDigit = false)
    (v : JsonValue) (stack : List Frame) (rest : List Char) :
    (behind v stack).run (b ++ c :: rest) = (stepDone v c stack).bind (·.run rest) := by
  cases b with
  | nil => rw [List.nil_append, run_cons, step_behind v stack hc]
  | cons space b =>
    -- the first blank ends a number, and the others follow the value as they follow any other
    obtain ⟨hspace, hb⟩ := List.forall_mem_cons.1 hb
    have hdigit : space.isDigit = false := by
      simp only [isSpace, Bool.or_eq_true, beq_iff_eq] at hspace
      obtain ((rfl | rfl) | rfl) | rfl := hspace <;> rfl
    have hdone : stepDone v space stack = some ⟨.done v, stack⟩ := by simp [stepDone, hspace]
    rw [List.cons_append, run_cons, step_behind v stack hdigit, hdone, Option.bind_some,
      run_blanks (fun c hc => by simp [step, stepDone, hc]) hb, run_cons]
    rfl

mutual

/-- **A value is read back**, in whatever way it was written. -/
theorem run_written {v : JsonValue} {t : List Char} (h : Written v t) (stack : List Frame) :
    (Reader.mk .value stack).run t = some (behind v stack) := by
  match v, t, h with
  | _, _, .true => rfl
  | _, _, .false => rfl
  | _, _, .nat n => exact run_digits n stack
  | _, _, .str hs => exact run_string hs .value stack []
  | _, _, .nil hb =>
    change (Reader.mk .value (.list [] :: stack)).run _ = _
    rw [run_blanks_value hb]
    rfl
  | _, _, .list hb hitem hitems =>
    change (Reader.mk .value (.list [] :: stack)).run _ = _
    rw [run_blanks_value hb, run_append, run_written hitem, Option.bind_some]
    exact run_writtenItems hitems [] _ stack
  | _, _, .empty hb =>
    change (Reader.mk (.key []) stack).run _ = _
    rw [run_blanks_key hb]
    rfl
  | _, _, .object hb hmember hmembers =>
    change (Reader.mk (.key []) stack).run _ = _
    rw [run_blanks_key hb, run_append, run_writtenMember hmember, Option.bind_some]
    exact run_writtenMembers hmembers [] _ stack

/-- The items of a list are read back behind the first. -/
theorem run_writtenItems {items : List JsonValue} {t : List Char} (h : WrittenItems items t)
    (before : List JsonValue) (v : JsonValue) (stack : List Frame) :
    (behind v (.list before :: stack)).run t =
      some ⟨.done (.list (before ++ v :: items)), stack⟩ := by
  match items, t, h with
  | _, _, .close hb => exact run_behind hb rfl v _ []
  | _, _, .more hb hb' hitem hitems =>
    rw [run_behind hb rfl]
    change (Reader.mk .value (.list (before ++ [v]) :: stack)).run _ = _
    rw [run_blanks_value hb', run_append, run_written hitem, Option.bind_some,
      run_writtenItems hitems, List.append_assoc, List.singleton_append]

/-- A member of an object is read back, up to the end of its value. -/
theorem run_writtenMember {m : String × JsonValue} {t : List Char} (h : WrittenMember m t)
    (members : List (String × JsonValue)) (stack : List Frame) :
    (Reader.mk (.key members) stack).run t = some (behind m.2 (.object members m.1 :: stack)) := by
  match m, t, h with
  | _, _, .member hkey hb hb' hv =>
    change (Reader.mk (.text (.key members) []) stack).run _ = _
    rw [run_string hkey]
    change (Reader.mk (.colon members _) stack).run _ = _
    rw [run_blanks_colon hb]
    change (Reader.mk .value (.object members _ :: stack)).run _ = _
    rw [run_blanks_value hb', run_written hv]

/-- The members of an object are read back behind the first. -/
theorem run_writtenMembers {members : List (String × JsonValue)} {t : List Char}
    (h : WrittenMembers members t) (before : List (String × JsonValue)) (m : String × JsonValue)
    (stack : List Frame) :
    (behind m.2 (.object before m.1 :: stack)).run t =
      some ⟨.done (.object (before ++ m :: members)), stack⟩ := by
  match members, t, h with
  | _, _, .close hb => exact run_behind hb rfl m.2 _ []
  | _, _, .more hb hb' hmember hmembers =>
    rw [run_behind hb rfl]
    change (Reader.mk (.key (before ++ [m])) stack).run _ = _
    rw [run_blanks_key hb', run_append, run_writtenMember hmember, Option.bind_some,
      run_writtenMembers hmembers, List.append_assoc, List.singleton_append]

end

/-- **What a writer of the format writes is read back.** -/
theorem Writes.read_eq {write : JsonValue → List Char} (h : Writes write) (v : JsonValue) :
    read (String.ofList (write v)) = some v := by
  rw [read, String.toList_ofList, run_written (h v), Option.bind_some, finish_behind]

/-- The text of a value is read back, whatever the value holds. -/
theorem read_render (v : JsonValue) : read v.render = some v := (writes_write 0).read_eq v

end StyleAudit.JsonValue
