/-!
# Sorted lists

Lists sorted by an order that is given as a test `before`. Elements of which neither comes before
the other keep their places relative to each other. Main statements: sorting permutes the list, its
result is in order, and a list in order stays as it is.
-/

namespace Assay

/-- Puts an element into a sorted list, ahead of those that it does not come after. -/
def insertSorted (before : α → α → Bool) (x : α) : List α → List α
  | [] => [x]
  | y :: rest => if before y x then y :: insertSorted before x rest else x :: y :: rest

/-- A list in ascending order. -/
def sorted (before : α → α → Bool) : List α → List α
  | [] => []
  | x :: rest => insertSorted before x (sorted before rest)

/-- No element of the list comes before an earlier one. -/
def InOrder (before : α → α → Bool) (xs : List α) : Prop :=
  xs.Pairwise fun a b => before b a = false

variable {before : α → α → Bool} {x : α} {xs : List α}

theorem insertSorted_perm (before : α → α → Bool) (x : α) (xs : List α) :
    (insertSorted before x xs).Perm (x :: xs) := by
  induction xs with
  | nil => exact .refl _
  | cons y rest ih =>
    rw [insertSorted]
    split
    · exact (ih.cons y).trans (.swap x y rest)
    · exact .refl _

/-- Sorting neither loses nor adds anything. -/
theorem sorted_perm (before : α → α → Bool) (xs : List α) : (sorted before xs).Perm xs := by
  induction xs with
  | nil => exact .refl _
  | cons x rest ih => exact (insertSorted_perm before x _).trans (ih.cons x)

theorem mem_sorted : x ∈ sorted before xs ↔ x ∈ xs :=
  (sorted_perm before xs).mem_iff

/-- What an order has to satisfy for sorting: of two elements only one comes before the other, and
not coming before is transitive. -/
structure Sortable (before : α → α → Bool) : Prop where
  asymm : ∀ a b, before a b = true → before b a = false
  trans : ∀ a b c, before b a = false → before c b = false → before c a = false

theorem InOrder.insertSorted (order : Sortable before) (h : InOrder before xs) :
    InOrder before (insertSorted before x xs) := by
  induction xs with
  | nil => exact List.pairwise_singleton _ x
  | cons y rest ih =>
    obtain ⟨first, others⟩ := List.pairwise_cons.1 h
    rw [Assay.insertSorted]
    split
    · next hyx =>
      refine List.pairwise_cons.2 ⟨fun z hz => ?_, ih others⟩
      rcases List.mem_cons.1 ((insertSorted_perm before x rest).mem_iff.1 hz) with rfl | hz
      · exact order.asymm y z hyx
      · exact first z hz
    · next hyx =>
      have hyx : before y x = false := by simpa using hyx
      refine List.pairwise_cons.2 ⟨fun z hz => ?_, h⟩
      rcases List.mem_cons.1 hz with rfl | hz
      · exact hyx
      · exact order.trans x y z hyx (first z hz)

/-- The result of sorting is in order. -/
theorem inOrder_sorted (order : Sortable before) (xs : List α) :
    InOrder before (sorted before xs) := by
  induction xs with
  | nil => exact List.Pairwise.nil
  | cons x rest ih => exact ih.insertSorted order

/-- A list that is in order already stays as it is. -/
theorem sorted_eq_self (h : InOrder before xs) : sorted before xs = xs := by
  induction xs with
  | nil => rfl
  | cons x rest ih =>
    obtain ⟨first, others⟩ := List.pairwise_cons.1 h
    rw [sorted, ih others]
    cases rest with
    | nil => rfl
    | cons y rest =>
      rw [insertSorted, if_neg]
      simp [first y (List.mem_cons_self ..)]

end Assay
