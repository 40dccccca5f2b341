/-!
# Text as bytes

Decoding never fails: a byte sequence that is not UTF-8 gives one replacement character for
each maximal part that could have started a character.  `Utf8.head` reads one item at the front
of the input and says how many further bytes belong to it; `Utf8.decode` and `Utf8.isValid` are
folds over these items.
-/

namespace StyleAudit.Utf8

/-- The character that stands for bytes which are not UTF-8. -/
def replacement : Char := Char.ofNat 0xFFFD

/-- A continuation byte, `10xxxxxx`. -/
def isContinuation (b : UInt8) : Bool := 0x80 ≤ b && b ≤ 0xBF

/-- The least and greatest second byte that may follow the lead byte `b`, and the number of
bytes after the lead; `none` for a byte that leads nothing.  The bounds keep out overlong forms,
surrogates and values beyond the last code point. -/
def lead (b : UInt8) : Option (UInt8 × UInt8 × Nat) :=
  if 0xC2 ≤ b && b ≤ 0xDF then some (0x80, 0xBF, 1)
  else if b == 0xE0 then some (0xA0, 0xBF, 2)
  else if b == 0xED then some (0x80, 0x9F, 2)
  else if 0xE1 ≤ b && b ≤ 0xEF then some (0x80, 0xBF, 2)
  else if b == 0xF0 then some (0x90, 0xBF, 3)
  else if 0xF1 ≤ b && b ≤ 0xF3 then some (0x80, 0xBF, 3)
  else if b == 0xF4 then some (0x80, 0x8F, 3)
  else none

/-- The bits that a byte contributes when `width` of them carry the value. -/
def payload (width : Nat) (b : UInt8) : Nat := b.toNat % Nat.pow 2 width

/-- Reads the item that starts with `b`: its character, or `none` for bytes that form none, and
the number of bytes of `rest` that belong to the item. -/
def head (b : UInt8) (rest : List UInt8) : Option Char × Nat :=
  if b < 0x80 then (some (Char.ofNat b.toNat), 0)
  else match lead b with
    | none => (none, 0)
    | some (low, high, more) =>
      match rest with
      | [] => (none, 0)
      | b₁ :: rest₁ =>
        if !(low ≤ b₁ && b₁ ≤ high) then (none, 0)
        else if more == 1 then
          (some (Char.ofNat (payload 5 b * 64 + payload 6 b₁)), 1)
        else match rest₁ with
          | [] => (none, 1)
          | b₂ :: rest₂ =>
            if !isContinuation b₂ then (none, 1)
            else if more == 2 then
              (some (Char.ofNat ((payload 4 b * 64 + payload 6 b₁) * 64 + payload 6 b₂)), 2)
            else match rest₂ with
              | [] => (none, 2)
              | b₃ :: _ =>
                if !isContinuation b₃ then (none, 2)
                else
                  (some (Char.ofNat
                    (((payload 3 b * 64 + payload 6 b₁) * 64 + payload 6 b₂) * 64 +
                      payload 6 b₃)), 3)

/-- The items of a byte string, after `skip` bytes that belong to an item already read. -/
def itemsFrom (skip : Nat) : List UInt8 → List (Option Char)
  | [] => []
  | b :: rest =>
    match skip with
    | k + 1 => itemsFrom k rest
    | 0 => (head b rest).1 :: itemsFrom (head b rest).2 rest

/-- The items of a byte string: characters, and `none` for each part that forms none. -/
def items (bytes : List UInt8) : List (Option Char) := itemsFrom 0 bytes

/-- The text of a byte string, with `replacement` for each part that forms no character. -/
def decode (bytes : List UInt8) : List Char := (items bytes).map (·.getD replacement)

/-- The byte string is UTF-8 throughout. -/
def isValid (bytes : List UInt8) : Bool := (items bytes).all (·.isSome)

/-- The text of a byte string that is UTF-8 throughout. -/
def decode? (bytes : List UInt8) : Option (List Char) :=
  if isValid bytes then some (decode bytes) else none

/-- The bytes of one character. -/
def encodeChar (c : Char) : List UInt8 :=
  let n := c.toNat
  let tail (shift : Nat) : UInt8 := UInt8.ofNat (0x80 + n / Nat.pow 2 shift % 64)
  if n < 0x80 then [UInt8.ofNat n]
  else if n < 0x800 then [UInt8.ofNat (0xC0 + n / 64), tail 0]
  else if n < 0x10000 then [UInt8.ofNat (0xE0 + n / 4096), tail 6, tail 0]
  else [UInt8.ofNat (0xF0 + n / 262144), tail 12, tail 6, tail 0]

/-- The bytes of a text. -/
def encode (t : List Char) : List UInt8 := t.flatMap encodeChar

end StyleAudit.Utf8
