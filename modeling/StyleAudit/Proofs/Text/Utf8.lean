import Mathlib.Data.List.Basic
import StyleAudit.Text.Utf8

/-!
# Decoding and encoding

`Utf8.Form` lists the forms of UTF-8, a code point and its bytes.  Encoding a character gives a
form of it, and reading an item gives a character only from a form of it.  From this follow

* `Utf8.decode_encode` and `Utf8.encode_decode` : decoding undoes encoding, and encoding undoes
  decoding on the byte strings that are UTF-8 throughout;
* `Utf8.isValid_iff` : these are exactly the encodings of texts, and `Utf8.encode_eq` : texts are
  encoded as strings keep them.
-/

namespace StyleAudit.Utf8

/-! ### Lead bytes -/

theorem isContinuation_iff {b : UInt8} :
    isContinuation b ↔ 0x80 ≤ b.toNat ∧ b.toNat ≤ 0xBF := by
  simp [isContinuation, UInt8.le_iff_toNat_le]

theorem lead_eq (b : UInt8) :
    lead b =
      if 0xC2 ≤ b.toNat ∧ b.toNat ≤ 0xDF then some (0x80, 0xBF, 1)
      else if b.toNat = 0xE0 then some (0xA0, 0xBF, 2)
      else if b.toNat = 0xED then some (0x80, 0x9F, 2)
      else if 0xE1 ≤ b.toNat ∧ b.toNat ≤ 0xEF then some (0x80, 0xBF, 2)
      else if b.toNat = 0xF0 then some (0x90, 0xBF, 3)
      else if 0xF1 ≤ b.toNat ∧ b.toNat ≤ 0xF3 then some (0x80, 0xBF, 3)
      else if b.toNat = 0xF4 then some (0x80, 0x8F, 3)
      else none := by
  simp only [lead, Bool.and_eq_true, decide_eq_true_eq, UInt8.le_iff_toNat_le, beq_iff_eq,
    ← UInt8.toNat_inj, UInt8.reduceToNat]

theorem lead_of_two {b : UInt8} (h : 0xC2 ≤ b.toNat) (h' : b.toNat ≤ 0xDF) :
    lead b = some (0x80, 0xBF, 1) := by
  rw [lead_eq, if_pos ⟨h, h'⟩]

theorem lead_of_three {b : UInt8} (h : 0xE0 ≤ b.toNat) (h' : b.toNat ≤ 0xEF) :
    lead b = some (if b.toNat = 0xE0 then 0xA0 else 0x80, if b.toNat = 0xED then 0x9F else 0xBF,
      2) := by
  rw [lead_eq, if_neg (by omega)]
  by_cases h₁ : b.toNat = 0xE0
  · rw [if_pos h₁, if_pos h₁, if_neg (by omega)]
  by_cases h₂ : b.toNat = 0xED
  · rw [if_neg h₁, if_pos h₂, if_neg h₁, if_pos h₂]
  · rw [if_neg h₁, if_neg h₂, if_pos (by omega), if_neg h₁, if_neg h₂]

theorem lead_of_four {b : UInt8} (h : 0xF0 ≤ b.toNat) (h' : b.toNat ≤ 0xF4) :
    lead b = some (if b.toNat = 0xF0 then 0x90 else 0x80, if b.toNat = 0xF4 then 0x8F else 0xBF,
      3) := by
  rw [lead_eq, if_neg (by omega), if_neg (by omega), if_neg (by omega), if_neg (by omega)]
  by_cases h₁ : b.toNat = 0xF0
  · rw [if_pos h₁, if_pos h₁, if_neg (by omega)]
  by_cases h₂ : b.toNat = 0xF4
  · rw [if_neg h₁, if_neg (by omega), if_pos h₂, if_neg h₁, if_pos h₂]
  · rw [if_neg h₁, if_pos (by omega), if_neg h₁, if_neg h₂]

theorem lead_of_none {b : UInt8} (h : b.toNat < 0xC2 ∨ 0xF4 < b.toNat) : lead b = none := by
  rw [lead_eq, if_neg (by omega), if_neg (by omega), if_neg (by omega), if_neg (by omega),
    if_neg (by omega), if_neg (by omega), if_neg (by omega)]

/-! ### Forms -/

/-- The forms of UTF-8: a code point and its bytes.  The bounds on the second byte keep out
overlong forms, surrogates and values beyond the last code point. -/
inductive Form : Nat → List UInt8 → Prop where
  /-- One byte, `0xxxxxxx`. -/
  | one {b : UInt8} : b.toNat < 0x80 → Form b.toNat [b]
  /-- Two bytes, the first one `110xxxxx`. -/
  | two {b b₁ : UInt8} : 0xC2 ≤ b.toNat ∧ b.toNat ≤ 0xDF → isContinuation b₁ →
    Form ((b.toNat - 0xC0) * 64 + (b₁.toNat - 0x80)) [b, b₁]
  /-- Three bytes, the first one `1110xxxx`. -/
  | three {b b₁ b₂ : UInt8} : 0xE0 ≤ b.toNat ∧ b.toNat ≤ 0xEF → isContinuation b₁ →
    isContinuation b₂ → (b.toNat = 0xE0 → 0xA0 ≤ b₁.toNat) → (b.toNat = 0xED → b₁.toNat ≤ 0x9F) →
    Form (((b.toNat - 0xE0) * 64 + (b₁.toNat - 0x80)) * 64 + (b₂.toNat - 0x80)) [b, b₁, b₂]
  /-- Four bytes, the first one `11110xxx`. -/
  | four {b b₁ b₂ b₃ : UInt8} : 0xF0 ≤ b.toNat ∧ b.toNat ≤ 0xF4 → isContinuation b₁ →
    isContinuation b₂ → isContinuation b₃ → (b.toNat = 0xF0 → 0x90 ≤ b₁.toNat) →
    (b.toNat = 0xF4 → b₁.toNat ≤ 0x8F) →
    Form ((((b.toNat - 0xF0) * 64 + (b₁.toNat - 0x80)) * 64 + (b₂.toNat - 0x80)) * 64 +
      (b₃.toNat - 0x80)) [b, b₁, b₂, b₃]

theorem Form.isValidChar {n : Nat} {bytes : List UInt8} (h : Form n bytes) : n.isValidChar := by
  cases h with
  | one h => left; omega
  | two h h₁ =>
    rw [isContinuation_iff] at h₁
    left; omega
  | three h h₁ h₂ hlow hhigh =>
    rw [isContinuation_iff] at h₁ h₂
    simp only [Nat.isValidChar]
    omega
  | four h h₁ h₂ h₃ hlow hhigh =>
    rw [isContinuation_iff] at h₁ h₂ h₃
    simp only [Nat.isValidChar]
    omega

theorem toNat_ofNat {n : Nat} (h : n.isValidChar) : (Char.ofNat n).toNat = n := by
  rw [Char.ofNat, dif_pos h]
  rfl

theorem ofNat_eq {n : Nat} {b : UInt8} (h : n = b.toNat) : UInt8.ofNat n = b := by
  rw [h, UInt8.ofNat_toNat]

theorem encodeChar_eq_ite (c : Char) :
    encodeChar c =
      if c.toNat < 0x80 then [.ofNat c.toNat]
      else if c.toNat < 0x800 then [.ofNat (0xC0 + c.toNat / 64), .ofNat (0x80 + c.toNat % 64)]
      else if c.toNat < 0x10000 then
        [.ofNat (0xE0 + c.toNat / 4096), .ofNat (0x80 + c.toNat / 64 % 64),
          .ofNat (0x80 + c.toNat % 64)]
      else
        [.ofNat (0xF0 + c.toNat / 262144), .ofNat (0x80 + c.toNat / 4096 % 64),
          .ofNat (0x80 + c.toNat / 64 % 64), .ofNat (0x80 + c.toNat % 64)] := by
  have h : c.toNat / Nat.pow 2 0 = c.toNat := Nat.div_one _
  simp only [encodeChar, h]

theorem Form.encodeChar_eq {n : Nat} {bytes : List UInt8} (h : Form n bytes) :
    encodeChar (Char.ofNat n) = bytes := by
  rw [encodeChar_eq_ite, toNat_ofNat h.isValidChar]
  cases h with
  | one h => rw [if_pos h, ofNat_eq rfl]
  | two h h₁ =>
    rw [isContinuation_iff] at h₁
    rw [if_neg (by omega), if_pos (by omega)]
    simp only [List.cons.injEq, and_true]
    exact ⟨ofNat_eq (by omega), ofNat_eq (by omega)⟩
  | three h h₁ h₂ hlow hhigh =>
    rw [isContinuation_iff] at h₁ h₂
    rw [if_neg (by omega), if_neg (by omega), if_pos (by omega)]
    simp only [List.cons.injEq, and_true]
    exact ⟨ofNat_eq (by omega), ofNat_eq (by omega), ofNat_eq (by omega)⟩
  | four h h₁ h₂ h₃ hlow hhigh =>
    rw [isContinuation_iff] at h₁ h₂ h₃
    rw [if_neg (by omega), if_neg (by omega), if_neg (by omega)]
    simp only [List.cons.injEq, and_true]
    exact ⟨ofNat_eq (by omega), ofNat_eq (by omega), ofNat_eq (by omega), ofNat_eq (by omega)⟩

theorem payload_tail {b : UInt8} (h : isContinuation b) : payload 6 b = b.toNat - 0x80 := by
  rw [isContinuation_iff] at h
  change b.toNat % 64 = _
  omega

theorem payload_two {b : UInt8} (h : 0xC2 ≤ b.toNat ∧ b.toNat ≤ 0xDF) :
    payload 5 b = b.toNat - 0xC0 := by
  change b.toNat % 32 = _
  omega

theorem payload_three {b : UInt8} (h : 0xE0 ≤ b.toNat ∧ b.toNat ≤ 0xEF) :
    payload 4 b = b.toNat - 0xE0 := by
  change b.toNat % 16 = _
  omega

theorem payload_four {b : UInt8} (h : 0xF0 ≤ b.toNat ∧ b.toNat ≤ 0xF4) :
    payload 3 b = b.toNat - 0xF0 := by
  change b.toNat % 8 = _
  omega

/-- A second byte between bounds that are tightened under the conditions `p` and `q`. -/
theorem second_iff {p q : Prop} [Decidable p] [Decidable q] {b : UInt8} (low high : UInt8)
    (hlow : 0x80 ≤ low.toNat) (hhigh : high.toNat ≤ 0xBF) :
    ((if p then low else 0x80) ≤ b && b ≤ (if q then high else 0xBF)) = true ↔
      isContinuation b ∧ (p → low.toNat ≤ b.toNat) ∧ (q → b.toNat ≤ high.toNat) := by
  rw [isContinuation_iff, Bool.and_eq_true, decide_eq_true_eq, decide_eq_true_eq,
    UInt8.le_iff_toNat_le, UInt8.le_iff_toNat_le]
  by_cases hp : p <;> by_cases hq : q <;> simp [hp, hq] <;> omega

/-- Reading the bytes of a form gives its character. -/
theorem Form.head_eq {n : Nat} {b : UInt8} {tail : List UInt8} (h : Form n (b :: tail))
    (rest : List UInt8) : head b (tail ++ rest) = (some (Char.ofNat n), tail.length) := by
  cases h with
  | one h =>
    have hb : b < 0x80 := by simpa [UInt8.lt_iff_toNat_lt] using h
    simp [head, hb]
  | two h h₁ =>
    have hb : ¬ b < 0x80 := by simp only [UInt8.lt_iff_toNat_lt, UInt8.reduceToNat]; omega
    rw [← payload_two h, ← payload_tail h₁]
    rw [isContinuation] at h₁
    simp [head, hb, lead_of_two h.1 h.2, h₁]
  | three h h₁ h₂ hlow hhigh =>
    have hb : ¬ b < 0x80 := by simp only [UInt8.lt_iff_toNat_lt, UInt8.reduceToNat]; omega
    have hs := (second_iff 0xA0 0x9F (by decide) (by decide)).2 ⟨h₁, hlow, hhigh⟩
    rw [← payload_three h, ← payload_tail h₁, ← payload_tail h₂]
    simp only [head, hb, lead_of_three h.1 h.2, List.cons_append, hs, h₂]
    rfl
  | four h h₁ h₂ h₃ hlow hhigh =>
    have hb : ¬ b < 0x80 := by simp only [UInt8.lt_iff_toNat_lt, UInt8.reduceToNat]; omega
    have hs := (second_iff 0x90 0x8F (by decide) (by decide)).2 ⟨h₁, hlow, hhigh⟩
    rw [← payload_four h, ← payload_tail h₁, ← payload_tail h₂, ← payload_tail h₃]
    simp only [head, hb, lead_of_four h.1 h.2, List.cons_append, hs, h₂, h₃]
    rfl

theorem Form.exists_cons {n : Nat} {bytes : List UInt8} (h : Form n bytes) :
    ∃ b tail, bytes = b :: tail := by
  cases h <;> exact ⟨_, _, rfl⟩

theorem Form.cast {n m : Nat} {bytes : List UInt8} (h : Form n bytes) (e : n = m) :
    Form m bytes :=
  e ▸ h

/-- The bytes of a character are a form of it. -/
theorem form_encodeChar (c : Char) : Form c.toNat (encodeChar c) := by
  have hv : c.toNat < 0xD800 ∨ (0xDFFF < c.toNat ∧ c.toNat < 0x110000) := c.valid
  have hb : ∀ n, n < 256 → (UInt8.ofNat n).toNat = n := fun n h => UInt8.toNat_ofNat_of_lt' h
  rw [encodeChar_eq_ite]
  generalize c.toNat = n at *
  split_ifs with h₁ h₂ h₃
  · have e := hb n (by omega)
    exact (Form.one (by omega)).cast e
  · have e := hb (0xC0 + n / 64) (by omega)
    have e₁ := hb (0x80 + n % 64) (by omega)
    exact (Form.two (by omega) (isContinuation_iff.2 (by omega))).cast (by omega)
  · have e := hb (0xE0 + n / 4096) (by omega)
    have e₁ := hb (0x80 + n / 64 % 64) (by omega)
    have e₂ := hb (0x80 + n % 64) (by omega)
    exact (Form.three (by omega) (isContinuation_iff.2 (by omega))
      (isContinuation_iff.2 (by omega)) (by omega) (by omega)).cast (by omega)
  · have e := hb (0xF0 + n / 262144) (by omega)
    have e₁ := hb (0x80 + n / 4096 % 64) (by omega)
    have e₂ := hb (0x80 + n / 64 % 64) (by omega)
    have e₃ := hb (0x80 + n % 64) (by omega)
    exact (Form.four (by omega) (isContinuation_iff.2 (by omega))
      (isContinuation_iff.2 (by omega)) (isContinuation_iff.2 (by omega)) (by omega)
      (by omega)).cast (by omega)

/-- What a lead byte and a second byte within its bounds tell about each other. -/
theorem lead_second {b low high b₁ : UInt8} {more : Nat} (hl : lead b = some (low, high, more))
    (hs : (low ≤ b₁ && b₁ ≤ high) = true) :
    isContinuation b₁ ∧
      ((more = 1 ∧ 0xC2 ≤ b.toNat ∧ b.toNat ≤ 0xDF) ∨
        (more = 2 ∧ (0xE0 ≤ b.toNat ∧ b.toNat ≤ 0xEF) ∧ (b.toNat = 0xE0 → 0xA0 ≤ b₁.toNat) ∧
          (b.toNat = 0xED → b₁.toNat ≤ 0x9F)) ∨
        (more = 3 ∧ (0xF0 ≤ b.toNat ∧ b.toNat ≤ 0xF4) ∧ (b.toNat = 0xF0 → 0x90 ≤ b₁.toNat) ∧
          (b.toNat = 0xF4 → b₁.toNat ≤ 0x8F))) := by
  by_cases h₀ : b.toNat < 0xC2 ∨ 0xF4 < b.toNat
  · rw [lead_of_none h₀] at hl
    cases hl
  by_cases h₂ : b.toNat ≤ 0xDF
  · rw [lead_of_two (by omega) h₂] at hl
    cases hl
    exact ⟨hs, .inl ⟨rfl, by omega, h₂⟩⟩
  by_cases h₃ : b.toNat ≤ 0xEF
  · rw [lead_of_three (by omega) h₃] at hl
    cases hl
    obtain ⟨h₁, hlow, hhigh⟩ := (second_iff 0xA0 0x9F (by decide) (by decide)).1 hs
    exact ⟨h₁, .inr (.inl ⟨rfl, by omega, hlow, hhigh⟩)⟩
  · rw [lead_of_four (by omega) (by omega)] at hl
    cases hl
    obtain ⟨h₁, hlow, hhigh⟩ := (second_iff 0x90 0x8F (by decide) (by decide)).1 hs
    exact ⟨h₁, .inr (.inr ⟨rfl, by omega, hlow, hhigh⟩)⟩

/-- An item that is a character is a form of it. -/
theorem form_of_head {b : UInt8} {rest : List UInt8} {c : Char} {k : Nat}
    (h : head b rest = (some c, k)) :
    ∃ n tail more, Form n (b :: tail) ∧ c = Char.ofNat n ∧ rest = tail ++ more ∧
      k = tail.length := by
  unfold head at h
  split at h
  · rename_i hb
    cases h
    exact ⟨b.toNat, [], rest, .one (by simpa [UInt8.lt_iff_toNat_lt] using hb), rfl, rfl, rfl⟩
  split at h
  · cases h
  rename_i low high count hl
  split at h
  · cases h
  rename_i b₁ rest
  split at h
  · cases h
  rename_i hs
  have hs : (low ≤ b₁ && b₁ ≤ high) = true := by simpa using hs
  obtain ⟨h₁, ⟨rfl, hr⟩ | hmore⟩ := lead_second hl hs
  · rw [if_pos (by decide)] at h
    cases h
    exact ⟨_, [b₁], rest, .two hr h₁, by rw [payload_two hr, payload_tail h₁], rfl, rfl⟩
  -- three and four bytes share the third one
  have hone : ¬ (count == 1) = true := by
    rcases hmore with ⟨rfl, -⟩ | ⟨rfl, -⟩ <;> decide
  rw [if_neg hone] at h
  split at h
  · cases h
  rename_i b₂ rest
  split at h
  · cases h
  rename_i h₂
  have h₂ : isContinuation b₂ := by simpa using h₂
  rcases hmore with ⟨rfl, hr, hlow, hhigh⟩ | ⟨rfl, hr, hlow, hhigh⟩
  · rw [if_pos (by decide)] at h
    cases h
    exact ⟨_, [b₁, b₂], rest, .three hr h₁ h₂ hlow hhigh,
      by rw [payload_three hr, payload_tail h₁, payload_tail h₂], rfl, rfl⟩
  · rw [if_neg (by decide)] at h
    split at h
    · cases h
    rename_i b₃ rest
    split at h
    · cases h
    rename_i h₃
    have h₃ : isContinuation b₃ := by simpa using h₃
    cases h
    exact ⟨_, [b₁, b₂, b₃], rest, .four hr h₁ h₂ h₃ hlow hhigh,
      by rw [payload_four hr, payload_tail h₁, payload_tail h₂, payload_tail h₃], rfl, rfl⟩

/-! ### Texts -/

theorem itemsFrom_append_length (skipped bytes : List UInt8) :
    itemsFrom skipped.length (skipped ++ bytes) = items bytes := by
  induction skipped with
  | nil => rfl
  | cons b rest ih => exact ih

/-- The bytes of a text are read back as its characters. -/
theorem items_encode_append (t : List Char) (rest : List UInt8) :
    items (encode t ++ rest) = t.map some ++ items rest := by
  induction t with
  | nil => rfl
  | cons c t ih =>
    have hf := form_encodeChar c
    obtain ⟨b, tail, hb⟩ := hf.exists_cons
    rw [hb] at hf
    have hh := hf.head_eq (encode t ++ rest)
    rw [Char.ofNat_toNat] at hh
    change items (encodeChar c ++ encode t ++ rest) = _
    rw [hb, List.append_assoc, List.cons_append, items, itemsFrom, hh, itemsFrom_append_length, ih]
    rfl

theorem items_encode (t : List Char) : items (encode t) = t.map some := by
  simpa [items, itemsFrom] using items_encode_append t []

theorem decode_encode (t : List Char) : decode (encode t) = t := by
  simp [decode, items_encode, Function.comp_def]

theorem isValid_encode (t : List Char) : isValid (encode t) := by
  simp [isValid, items_encode]

theorem encode_cons (c : Char) (t : List Char) : encode (c :: t) = encodeChar c ++ encode t := rfl

theorem encode_append (t u : List Char) : encode (t ++ u) = encode t ++ encode u :=
  List.flatMap_append

theorem encode_itemsFrom {skip : Nat} {bytes : List UInt8}
    (h : (itemsFrom skip bytes).all (·.isSome)) :
    encode ((itemsFrom skip bytes).map (·.getD replacement)) = bytes.drop skip := by
  induction bytes generalizing skip with
  | nil => simp [itemsFrom, encode]
  | cons b rest ih =>
    cases skip with
    | succ k => exact ih h
    | zero =>
      rcases hh : head b rest with ⟨o, k⟩
      rw [itemsFrom, hh, List.all_cons, Bool.and_eq_true] at h
      obtain ⟨c, rfl⟩ := Option.isSome_iff_exists.1 h.1
      obtain ⟨n, tail, more, hf, rfl, rfl, rfl⟩ := form_of_head hh
      rw [itemsFrom, hh, List.map_cons, encode_cons, Option.getD_some, hf.encodeChar_eq, ih h.2,
        List.drop_left]
      rfl

theorem encode_decode {bytes : List UInt8} (h : isValid bytes) : encode (decode bytes) = bytes :=
  encode_itemsFrom h

/-- The byte strings that are UTF-8 throughout are those of texts. -/
theorem isValid_iff {bytes : List UInt8} : isValid bytes ↔ ∃ t, encode t = bytes :=
  ⟨fun h => ⟨decode bytes, encode_decode h⟩, fun ⟨t, h⟩ => h ▸ isValid_encode t⟩

/-- The bytes of a character are those that strings keep it in. -/
theorem encodeChar_eq_utf8EncodeChar (c : Char) : encodeChar c = String.utf8EncodeChar c := by
  have hv : c.toNat < 0xD800 ∨ (0xDFFF < c.toNat ∧ c.toNat < 0x110000) := c.valid
  rw [encodeChar_eq_ite, String.utf8EncodeChar]
  simp only [show c.val.toNat = c.toNat from rfl]
  generalize c.toNat = n at *
  by_cases h₁ : n < 0x80
  · rw [if_pos h₁, if_pos (by omega)]
  by_cases h₂ : n < 0x800
  · rw [if_neg h₁, if_pos h₂, if_neg (by omega), if_pos (by omega)]
    simp only [List.cons.injEq, and_true]
    exact ⟨congrArg _ (by omega), congrArg _ (by omega)⟩
  by_cases h₃ : n < 0x10000
  · rw [if_neg h₁, if_neg h₂, if_pos h₃, if_neg (by omega), if_neg (by omega), if_pos (by omega)]
    simp only [List.cons.injEq, and_true]
    exact ⟨congrArg _ (by omega), congrArg _ (by omega), congrArg _ (by omega)⟩
  · rw [if_neg h₁, if_neg h₂, if_neg h₃, if_neg (by omega), if_neg (by omega), if_neg (by omega)]
    simp only [List.cons.injEq, and_true]
    exact ⟨congrArg _ (by omega), congrArg _ (by omega), congrArg _ (by omega),
      congrArg _ (by omega)⟩

theorem encode_eq (t : List Char) : encode t = t.flatMap String.utf8EncodeChar :=
  List.flatMap_congr fun c _ => encodeChar_eq_utf8EncodeChar c

end StyleAudit.Utf8
