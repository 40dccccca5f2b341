import Mathlib.Data.List.Sort

/-!
# Sorting

Sorting by a total order in which different items may tie keeps the order of every selection
(`filter_mergeSort`), and so that of items that tie (`filter_ties_mergeSort`).  Sorted lists with
the same items in each tie are equal (`eq_of_filter_ties`), whatever stood between these before.
-/

namespace StyleAudit

variable {α : Type} {le : α → α → Bool} {a : α} {front back xs ys : List α}

/-! ### Comparisons -/

/-- Comparing keys is as good an order as that of the keys. -/
theorem transCmp_comap {κ : Type} (cmp : κ → κ → Ordering) [Std.TransCmp cmp] (key : α → κ) :
    Std.TransCmp fun a b => cmp (key a) (key b) where
  eq_swap := Std.OrientedCmp.eq_swap
  isLE_trans := Std.TransCmp.isLE_trans

theorem isLE_total (cmp : α → α → Ordering) [Std.OrientedCmp cmp] (a b : α) :
    (cmp a b).isLE || (cmp b a).isLE := by
  have hswap : cmp b a = (cmp a b).swap := Std.OrientedCmp.eq_swap
  rw [hswap]
  cases cmp a b <;> rfl

/-! ### Selections -/

/-- A list that is cut at an element is cut in one way only. -/
theorem filter_cut (hfront : ∀ b ∈ front, !le a b) (hback : ∀ b ∈ back, le a b) :
    (front ++ back).filter (!le a ·) = front ∧ (front ++ back).filter (le a ·) = back := by
  rw [List.filter_append, List.filter_append]
  constructor
  · rw [List.filter_eq_self.2 hfront, List.filter_eq_nil_iff.2 (by simpa using hback),
      List.append_nil]
  · rw [List.filter_eq_self.2 hback, List.filter_eq_nil_iff.2 (by simpa using hfront),
      List.nil_append]

theorem le_of_mergeSort_eq (trans : ∀ a b c, le a b → le b c → le a c)
    (total : ∀ a b, le a b || le b a) {items : List α}
    (h : items.mergeSort le = front ++ a :: back) : ∀ b ∈ back, le a b := by
  have hsorted := List.pairwise_mergeSort trans total items
  rw [h] at hsorted
  exact (List.pairwise_cons.1 (List.pairwise_append.1 hsorted).2.1).1

/-- Sorting leaves the order of a selection alone. -/
theorem filter_mergeSort (trans : ∀ a b c, le a b → le b c → le a c)
    (total : ∀ a b, le a b || le b a) (q : α → Bool) (items : List α) :
    (items.mergeSort le).filter q = (items.filter q).mergeSort le := by
  induction items with
  | nil => simp
  | cons a items ih =>
    obtain ⟨front, back, hcons, hitems, hfront⟩ := List.mergeSort_cons trans total a items
    rw [hitems, List.filter_append] at ih
    by_cases hq : q a
    · -- The element cuts both lists, the sorted one and the sorted selection, at the same place.
      obtain ⟨front', back', hcons', hitems', hfront'⟩ :=
        List.mergeSort_cons trans total a (items.filter q)
      have hselectedFront : ∀ b ∈ front.filter q, !le a b :=
        fun b hb => hfront b (List.mem_filter.1 hb).1
      have hselectedBack : ∀ b ∈ back.filter q, le a b :=
        fun b hb => le_of_mergeSort_eq trans total hcons b (List.mem_filter.1 hb).1
      have hselected := filter_cut hselectedFront hselectedBack
      rw [ih, hitems'] at hselected
      obtain ⟨hfronts, hbacks⟩ := filter_cut hfront' (le_of_mergeSort_eq trans total hcons')
      rw [List.filter_cons_of_pos hq, hcons', hcons, List.filter_append, List.filter_cons_of_pos hq,
        ← hselected.1, ← hselected.2, hfronts, hbacks]
    · rw [List.filter_cons_of_neg hq, ← ih, hcons, List.filter_append, List.filter_cons_of_neg hq]

/-! ### Ties -/

/-- Neither item has to stand before the other. -/
def ties (le : α → α → Bool) (a b : α) : Bool := le a b && le b a

theorem ties_iff {b : α} : ties le a b = true ↔ le a b = true ∧ le b a = true := by
  rw [ties, Bool.and_eq_true]

/-- Items tie if they compare equal. -/
theorem ties_isLE_iff (cmp : α → α → Ordering) [Std.OrientedCmp cmp] {b : α} :
    ties (fun a b => (cmp a b).isLE) a b = true ↔ cmp a b = .eq := by
  rw [ties_iff]
  constructor
  · rintro ⟨hab, hba⟩
    exact Std.OrientedCmp.isLE_antisymm hab hba
  · intro h
    have hswap : cmp b a = (cmp a b).swap := Std.OrientedCmp.eq_swap
    rw [hswap, h]
    exact ⟨rfl, rfl⟩

/-- Sorting leaves items that tie in their order. -/
theorem filter_ties_mergeSort (trans : ∀ a b c, le a b → le b c → le a c)
    (total : ∀ a b, le a b || le b a) (a : α) (items : List α) :
    (items.mergeSort le).filter (ties le a) = items.filter (ties le a) := by
  rw [filter_mergeSort trans total]
  refine List.mergeSort_of_pairwise (List.pairwise_of_forall_mem_list fun b hb c hc => ?_)
  have hb := ties_iff.1 (List.mem_filter.1 hb).2
  have hc := ties_iff.1 (List.mem_filter.1 hc).2
  exact trans b a c hb.2 hc.1

theorem mem_filter_ties (total : ∀ a b, le a b || le b a) {items : List α} (h : a ∈ items) :
    a ∈ items.filter (ties le a) := by
  have hrefl : le a a = true := by simpa using total a a
  exact List.mem_filter.2 ⟨h, ties_iff.2 ⟨hrefl, hrefl⟩⟩

theorem mem_of_filter_ties (total : ∀ a b, le a b || le b a)
    (h : xs.filter (ties le a) = ys.filter (ties le a)) (ha : a ∈ xs) : a ∈ ys := by
  have hmem := mem_filter_ties total ha
  rw [h] at hmem
  exact (List.mem_filter.1 hmem).1

/-- **Sorted lists are equal if the items of each tie are.** -/
theorem eq_of_filter_ties (total : ∀ a b, le a b || le b a) (hxs : xs.Pairwise (le · ·))
    (hys : ys.Pairwise (le · ·)) (h : ∀ a, xs.filter (ties le a) = ys.filter (ties le a)) :
    xs = ys := by
  induction xs generalizing ys with
  | nil =>
    refine (List.eq_nil_iff_forall_not_mem.2 fun a ha => ?_).symm
    exact List.not_mem_nil (mem_of_filter_ties total (h a).symm ha)
  | cons x xs ih =>
    cases ys with
    | nil => exact absurd (mem_of_filter_ties total (h x) List.mem_cons_self) List.not_mem_nil
    | cons y ys =>
      obtain ⟨hx, hxtail⟩ := List.pairwise_cons.1 hxs
      obtain ⟨hy, hytail⟩ := List.pairwise_cons.1 hys
      have hrefl (a : α) : le a a = true := by simpa using total a a
      -- both heads are least, so that they tie, and each is the first one of its tie
      obtain rfl : x = y := by
        have hyx : le y x = true := by
          rcases List.mem_cons.1 (mem_of_filter_ties total (h x) List.mem_cons_self) with rfl | hx
          · exact hrefl x
          · exact hy x hx
        have hxy : le x y = true := by
          rcases List.mem_cons.1 (mem_of_filter_ties total (h y).symm List.mem_cons_self)
            with rfl | hy
          · exact hrefl y
          · exact hx y hy
        have hheads := h x
        rw [List.filter_cons_of_pos (ties_iff.2 ⟨hrefl x, hrefl x⟩),
          List.filter_cons_of_pos (ties_iff.2 ⟨hxy, hyx⟩)] at hheads
        exact (List.cons.inj hheads).1
      have htails (a : α) : xs.filter (ties le a) = ys.filter (ties le a) := by
        have ha := h a
        rw [List.filter_cons, List.filter_cons] at ha
        by_cases hxa : ties le a x = true
        · rw [if_pos hxa, if_pos hxa] at ha
          exact (List.cons.inj ha).2
        · rwa [if_neg hxa, if_neg hxa] at ha
      rw [ih hxtail hytail htails]

end StyleAudit
