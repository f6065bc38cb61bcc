import Assay.Proofs.Json.Tree
import Assay.Shape.Check

/-!
# Repeated items

Documents whose numbers are all integers are equal for the check exactly if they are one document,
whether it compares numbers by value or also by form. So the check finds the items of a list all
different exactly if no document is in the list twice, however long the list is.
-/

namespace Assay

namespace Json

/-- The numbers that are integers in form and not only in value. -/
def Number.IsInteger : Number → Prop
  | .int _ => True
  | .float _ => False

/-- On integers the two comparisons of numbers are equality. -/
theorem number_eq_iff {m n : Number} (whole : m.IsInteger) (whole' : n.IsInteger) :
    (m.sameValue n = true ↔ m = n) ∧ (m.sameForm n = true ↔ m = n) := by
  cases m with
  | float x => exact whole.elim
  | int i =>
    cases n with
    | float y => exact whole'.elim
    | int j => simp [Number.sameValue, Number.sameForm]

section
variable {number : Number → Number → Bool}

theorem lead_eq_of_equalBy {v w : Json} (equal : equalBy number v w = true) :
    v.lead = w.lead := by
  cases v <;> cases w <;> simp_all [equalBy, lead]

theorem equalItems_iff {items others : List Json}
    (each : ∀ v ∈ items, ∀ w ∈ others, (equalBy number v w = true ↔ v = w)) :
    equalItems number items others = true ↔ items = others := by
  induction items generalizing others with
  | nil => cases others <;> simp [equalItems]
  | cons v items ih =>
    cases others with
    | nil => simp [equalItems]
    | cons w others =>
      simp only [List.forall_mem_cons] at each
      have head := each.1.1
      have tail := ih fun x mem => (each.2 x mem).2
      simp [equalItems, head, tail]

theorem equalMembers_iff {members others : List (String × Json)}
    (each : ∀ m ∈ members, ∀ n ∈ others, (equalBy number m.2 n.2 = true ↔ m.2 = n.2)) :
    equalMembers number members others = true ↔ members = others := by
  induction members generalizing others with
  | nil => cases others <;> simp [equalMembers]
  | cons m members ih =>
    cases others with
    | nil => simp [equalMembers]
    | cons n others =>
      simp only [List.forall_mem_cons] at each
      have head := each.1.1
      have tail := ih fun x mem => (each.2 x mem).2
      simp [equalMembers, head, tail, Prod.ext_iff]

/-- If numbers are compared by equality, so are the documents that hold them. -/
theorem equalBy_iff {P : Number → Prop}
    (exact : ∀ m n, P m → P n → (number m n = true ↔ m = n)) {v w : Json}
    (all : v.Everywhere (Numbers P)) (all' : w.Everywhere (Numbers P)) :
    equalBy number v w = true ↔ v = w := by
  induction v, w using pair_induction with
  | apart v w kind =>
    refine iff_of_false (fun equal => kind (lead_eq_of_equalBy equal)) ?_
    rintro rfl
    exact kind rfl
  | null => simp [equalBy]
  | bool b => simp [equalBy]
  | num m n => simp [equalBy, exact m n all all']
  | str s t => simp [equalBy]
  | arr items others ih =>
    have inside := (everywhere_arr.mp all).2
    have inside' := (everywhere_arr.mp all').2
    rw [equalBy, equalItems_iff, arr.injEq]
    exact fun v mem w mem' => ih v mem w (inside v mem) (inside' w mem')
  | obj members others ih =>
    have inside := (everywhere_obj.mp all).2
    have inside' := (everywhere_obj.mp all').2
    rw [equalBy, equalMembers_iff, obj.injEq]
    exact fun m mem n mem' => ih m mem n.2 (inside m mem) (inside' n mem')

end

end Json

/-! ## Lists -/

theorem distinct_iff {equal : Json → Json → Bool} {items : List Json} :
    allDifferent.distinct equal items = true ↔
      items.Pairwise fun v w => equal v w = false := by
  induction items with
  | nil => simp [allDifferent.distinct]
  | cons v items ih => simp [allDifferent.distinct, ih]

/-- The items of a list are found all different exactly if none of them is there twice. -/
theorem allDifferent_iff {items : List Json}
    (whole : ∀ v ∈ items, v.Everywhere (Json.Numbers Json.Number.IsInteger)) :
    allDifferent items = true ↔ items.Pairwise (· ≠ ·) := by
  have equality {number : Json.Number → Json.Number → Bool}
      (exact : ∀ m n : Json.Number, m.IsInteger → n.IsInteger → (number m n = true ↔ m = n)) :
      allDifferent.distinct (Json.equalBy number) items = true ↔ items.Pairwise (· ≠ ·) := by
    rw [distinct_iff]
    refine List.Pairwise.iff_of_mem ?_
    intro v w mem mem'
    rw [Bool.eq_false_iff, ne_eq, Json.equalBy_iff exact (whole v mem) (whole w mem')]
  unfold allDifferent
  dsimp only
  -- short lists compare numbers by value, long ones also by form
  split
  · exact equality fun m n h h' => (Json.number_eq_iff h h').1
  · exact equality fun m n h h' => (Json.number_eq_iff h h').2

end Assay
