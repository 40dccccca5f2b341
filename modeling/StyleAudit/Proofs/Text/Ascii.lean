import StyleAudit.Proofs.Text.Utf8

/-!
# Bytes of ASCII

A byte of ASCII is an item of its own, wherever it stands.  It ends every item before it, finished
or not (`Utf8.items_append_ascii`), so that a byte string may be cut there and its parts decoded one
by one.  It occurs in the bytes of its own character only (`Utf8.eq_of_mem_encodeChar`), and its
character is read from it only (`Utf8.mem_of_mem_decode`).
-/

namespace StyleAudit.Utf8

/-! ### Cutting -/

theorem lead_low {b low high : UInt8} {more : Nat} (h : lead b = some (low, high, more)) :
    0x80 ≤ low.toNat := by
  unfold lead at h
  split_ifs at h
  all_goals
    obtain ⟨rfl, -⟩ := Prod.mk.inj (Option.some.inj h)
    decide

theorem not_isContinuation {a : UInt8} (h : a.toNat < 0x80) : isContinuation a = false := by
  rw [Bool.eq_false_iff, ne_eq, isContinuation_iff]
  omega

theorem head_snd_le (b : UInt8) (rest : List UInt8) : (head b rest).2 ≤ rest.length := by
  unfold head
  split
  · exact Nat.zero_le _
  repeat' split
  all_goals simp

theorem head_append_ascii {a : UInt8} (h : a.toNat < 0x80) (b : UInt8) (rest more : List UInt8) :
    head b (rest ++ a :: more) = head b rest := by
  have hc := not_isContinuation h
  unfold head
  split
  · rfl
  cases hl : lead b with
  | none => rfl
  | some bounds =>
    obtain ⟨low, high, n⟩ := bounds
    have hlow : decide (low ≤ a) = false := by
      have := lead_low hl
      rw [decide_eq_false_iff_not, UInt8.le_iff_toNat_le]
      omega
    -- the byte is met as the second, third or fourth of the item, or it is behind them
    rcases rest with _ | ⟨b₁, _ | ⟨b₂, _ | ⟨b₃, rest⟩⟩⟩
    · simp [hlow]
    · simp [hc]
    · simp [hc]
    · simp

theorem itemsFrom_append_ascii {a : UInt8} (h : a.toNat < 0x80) {skip : Nat} {bytes : List UInt8}
    (hs : skip ≤ bytes.length) (more : List UInt8) :
    itemsFrom skip (bytes ++ a :: more) =
      itemsFrom skip bytes ++ some (Char.ofNat a.toNat) :: items more := by
  induction bytes generalizing skip with
  | nil =>
    obtain rfl : skip = 0 := by simpa using hs
    have ha : a < 0x80 := by simpa [UInt8.lt_iff_toNat_lt] using h
    simp [itemsFrom, head, ha, items]
  | cons b rest ih =>
    cases skip with
    | zero =>
      rw [List.cons_append, itemsFrom, itemsFrom, head_append_ascii h, ih (head_snd_le b rest),
        List.cons_append]
    | succ k => exact ih (Nat.le_of_succ_le_succ hs)

/-- A byte of ASCII may be read by itself. -/
theorem items_append_ascii {a : UInt8} (h : a.toNat < 0x80) (bytes more : List UInt8) :
    items (bytes ++ a :: more) = items bytes ++ some (Char.ofNat a.toNat) :: items more :=
  itemsFrom_append_ascii h (Nat.zero_le _) more

/-! ### Encoded characters -/

/-- A byte of ASCII stands for its own character only. -/
theorem eq_of_mem_encodeChar {a : UInt8} (h : a.toNat < 0x80) {c : Char} (ha : a ∈ encodeChar c) :
    c = Char.ofNat a.toNat := by
  have hf := form_encodeChar c
  generalize hn : c.toNat = n at hf
  generalize encodeChar c = bytes at hf ha
  cases hf with
  | one =>
    obtain rfl := List.mem_singleton.1 ha
    rw [← hn, Char.ofNat_toNat]
  | two hb h₁ =>
    rw [isContinuation_iff] at h₁
    simp only [List.mem_cons, List.not_mem_nil, or_false] at ha
    rcases ha with rfl | rfl <;> omega
  | three hb h₁ h₂ =>
    rw [isContinuation_iff] at h₁ h₂
    simp only [List.mem_cons, List.not_mem_nil, or_false] at ha
    rcases ha with rfl | rfl | rfl <;> omega
  | four hb h₁ h₂ h₃ =>
    rw [isContinuation_iff] at h₁ h₂ h₃
    simp only [List.mem_cons, List.not_mem_nil, or_false] at ha
    rcases ha with rfl | rfl | rfl | rfl <;> omega

theorem mem_of_mem_encode {a : UInt8} (h : a.toNat < 0x80) {t : List Char} (ha : a ∈ encode t) :
    Char.ofNat a.toNat ∈ t := by
  obtain ⟨c, hc, hm⟩ := List.mem_flatMap.1 ha
  rwa [← eq_of_mem_encodeChar h hm]

theorem encodeChar_ne_nil (c : Char) : encodeChar c ≠ [] := by
  obtain ⟨b, tail, h⟩ := (form_encodeChar c).exists_cons
  rw [h]
  exact List.cons_ne_nil b tail

theorem getLast?_of_getLast?_encode {a : UInt8} (h : a.toNat < 0x80) {t : List Char}
    (ha : (encode t).getLast? = some a) : t.getLast? = some (Char.ofNat a.toNat) := by
  rcases List.eq_nil_or_concat t with rfl | ⟨t, c, rfl⟩
  · cases ha
  · have he : encode [c] = encodeChar c := List.flatMap_singleton ..
    rw [List.concat_eq_append, encode_append, he,
      List.getLast?_append_of_ne_nil _ (encodeChar_ne_nil c)] at ha
    rw [List.concat_eq_append, List.getLast?_concat,
      eq_of_mem_encodeChar h (List.mem_of_getLast? ha)]

theorem encode_eq_nil {t : List Char} : encode t = [] ↔ t = [] := by
  refine ⟨fun h => ?_, fun h => h ▸ rfl⟩
  rw [← decode_encode t, h]
  rfl

/-! ### Decoded characters -/

/-- A character that is read stands in the bytes. -/
theorem encodeChar_infix_of_mem {c : Char} {skip : Nat} {bytes : List UInt8}
    (h : some c ∈ itemsFrom skip bytes) : encodeChar c <:+: bytes := by
  induction bytes generalizing skip with
  | nil => simp [itemsFrom] at h
  | cons b rest ih =>
    cases skip with
    | succ k => exact (ih h).trans (List.suffix_cons b rest).isInfix
    | zero =>
      rcases hh : head b rest with ⟨o, k⟩
      rw [itemsFrom, hh] at h
      rcases List.mem_cons.1 h with rfl | h
      · obtain ⟨n, tail, more, hf, rfl, rfl, rfl⟩ := form_of_head hh
        rw [hf.encodeChar_eq]
        exact (List.prefix_append (b :: tail) more).isInfix
      · exact (ih h).trans (List.suffix_cons b rest).isInfix

theorem itemsFrom_eq_nil {skip : Nat} {bytes : List UInt8} :
    itemsFrom skip bytes = [] ↔ bytes.drop skip = [] := by
  induction bytes generalizing skip with
  | nil => simp [itemsFrom]
  | cons b rest ih =>
    cases skip with
    | zero => simp [itemsFrom]
    | succ k => simpa [itemsFrom] using ih

/-- A character that is read last stands at the end of the bytes. -/
theorem encodeChar_suffix_of_getLast? {c : Char} {skip : Nat} {bytes : List UInt8}
    (h : (itemsFrom skip bytes).getLast? = some (some c)) : encodeChar c <:+ bytes := by
  induction bytes generalizing skip with
  | nil => simp [itemsFrom] at h
  | cons b rest ih =>
    cases skip with
    | succ k => exact (ih h).trans (List.suffix_cons b rest)
    | zero =>
      rcases hh : head b rest with ⟨o, k⟩
      rw [itemsFrom, hh] at h
      by_cases hn : itemsFrom k rest = []
      · simp only [hn, List.getLast?_singleton, Option.some.injEq] at h
        subst h
        obtain ⟨n, tail, more, hf, rfl, rfl, rfl⟩ := form_of_head hh
        obtain rfl : more = [] := by simpa using itemsFrom_eq_nil.1 hn
        exact ⟨[], by rw [List.nil_append, hf.encodeChar_eq, List.append_nil]⟩
      · rw [List.getLast?_cons_of_ne_nil hn] at h
        exact (ih h).trans (List.suffix_cons b rest)

theorem mem_of_mem_decode {a : UInt8} {c : Char} (hc : encodeChar c = [a]) (hr : c ≠ replacement)
    {bytes : List UInt8} (h : c ∈ decode bytes) : a ∈ bytes := by
  obtain ⟨o, ho, e⟩ := List.mem_map.1 h
  cases o with
  | none => exact absurd e.symm hr
  | some c' =>
    obtain rfl : c' = c := e
    have := (encodeChar_infix_of_mem ho).subset
    rw [hc] at this
    exact this List.mem_cons_self

theorem getLast?_of_getLast?_decode {a : UInt8} {c : Char} (hc : encodeChar c = [a])
    (hr : c ≠ replacement) {bytes : List UInt8} (h : (decode bytes).getLast? = some c) :
    bytes.getLast? = some a := by
  rw [decode, List.getLast?_map] at h
  obtain ⟨o, ho, e⟩ := Option.map_eq_some_iff.1 h
  cases o with
  | none => exact absurd e.symm hr
  | some c' =>
    obtain rfl : c' = c := e
    obtain ⟨front, rfl⟩ := encodeChar_suffix_of_getLast? ho
    rw [hc, List.getLast?_concat]

theorem decode_eq_nil {bytes : List UInt8} : decode bytes = [] ↔ bytes = [] := by
  rw [decode, List.map_eq_nil_iff, items, itemsFrom_eq_nil, List.drop_zero]

end StyleAudit.Utf8
