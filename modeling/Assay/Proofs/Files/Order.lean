import Assay.Files.Path

/-!
# The order of paths

Paths are ordered component by component. Components are in a strict total order, and so are lists
of them; so a list of paths can be sorted, and what is sorted stands in this order. When of equal
neighbours only one is kept, no two of the paths are equal, and none is lost.
-/

namespace Assay.Files

namespace Component

variable {a b c : Component}

/-- Components of one kind that are no names are equal; names are ordered as texts. -/
theorem less_iff : a.less b = true ↔
    less.rank a < less.rank b ∨ ∃ s t, a = .name s ∧ b = .name t ∧ s < t := by
  cases a <;> cases b <;> simp only [less, less.rank, decide_eq_true_eq] <;> grind

theorem less_irrefl (a : Component) : a.less a = false := by
  rw [← Bool.not_eq_true, less_iff]
  rintro (lower | ⟨s, t, rfl, same, lt⟩)
  · exact Nat.lt_irrefl _ lower
  · exact String.lt_irrefl s (Component.name.inj same ▸ lt)

theorem less_trans (h : a.less b = true) (h' : b.less c = true) : a.less c = true := by
  rw [less_iff] at h h' ⊢
  rcases h with lower | ⟨s, t, rfl, rfl, lt⟩
  · rcases h' with lower' | ⟨t, u, rfl, rfl, -⟩
    · exact .inl (Nat.lt_trans lower lower')
    · exact .inl lower
  · rcases h' with lower' | ⟨t', u, same, rfl, lt'⟩
    · exact .inl lower'
    · obtain rfl := Component.name.inj same
      exact .inr ⟨s, u, rfl, rfl, String.lt_trans lt lt'⟩

/-- Of two different components one comes before the other. -/
theorem less_total (h : a.less b = false) (h' : b.less a = false) : a = b := by
  rw [← Bool.not_eq_true, less_iff, not_or] at h h'
  have kind : less.rank a = less.rank b :=
    Nat.le_antisymm (Nat.not_lt.mp h'.1) (Nat.not_lt.mp h.1)
  cases a with
  | name s =>
    cases b with
    | name t =>
      have le : ¬ s < t := fun lt => h.2 ⟨s, t, rfl, rfl, lt⟩
      have le' : ¬ t < s := fun lt => h'.2 ⟨t, s, rfl, rfl, lt⟩
      rw [String.le_antisymm le' le]
    | _ => simp [less.rank] at kind
  | _ =>
    cases b with
    | name t => simp [less.rank] at kind
    | _ => first | rfl | simp [less.rank] at kind

end Component

namespace Path

open less (go)

theorem go_irrefl (as : List Component) : go as as = false := by
  induction as with
  | nil => rfl
  | cons a as ih => simp [go, Component.less_irrefl, ih]

theorem go_cons {a b : Component} {as bs : List Component} :
    go (a :: as) (b :: bs) = true ↔ a.less b = true ∨ a = b ∧ go as bs = true := by
  rw [go, Bool.or_eq_true, Bool.and_eq_true, beq_iff_eq]

theorem go_trans {as bs cs : List Component} (h : go as bs = true) (h' : go bs cs = true) :
    go as cs = true := by
  induction as generalizing bs cs with
  | nil =>
    cases cs with
    | nil => cases bs <;> cases h'
    | cons c cs => rfl
  | cons a as ih =>
    cases bs with
    | nil => cases h
    | cons b bs =>
      cases cs with
      | nil => cases h'
      | cons c cs =>
        rw [go_cons] at h h' ⊢
        rcases h with first | ⟨rfl, rest⟩
        · rcases h' with second | ⟨rfl, -⟩
          · exact .inl (Component.less_trans first second)
          · exact .inl first
        · rcases h' with second | ⟨rfl, rest'⟩
          · exact .inl second
          · exact .inr ⟨rfl, ih rest rest'⟩

theorem go_total {as bs : List Component} (h : go as bs = false) (h' : go bs as = false) :
    as = bs := by
  induction as generalizing bs with
  | nil =>
    cases bs with
    | nil => rfl
    | cons b bs => cases h
  | cons a as ih =>
    cases bs with
    | nil => cases h'
    | cons b bs =>
      rw [← Bool.not_eq_true, go_cons, not_or] at h h'
      obtain rfl := Component.less_total (Bool.eq_false_iff.mpr h.1)
        (Bool.eq_false_iff.mpr h'.1)
      rw [ih (by simpa using h.2) (by simpa using h'.2)]

/-- Paths can be sorted. -/
theorem sortable_less : Sortable less where
  asymm a b h := by
    rw [← Bool.not_eq_true]
    intro h'
    have loop := go_trans h h'
    rw [go_irrefl] at loop
    cases loop
  trans a b c h h' := by
    rw [← Bool.not_eq_true]
    intro before
    -- between two paths in the wrong order no third one can be in the right place
    cases first : less a b with
    | true =>
      have loop := go_trans before first
      rw [less] at h'
      rw [loop] at h'
      cases h'
    | false =>
      rw [less] at h h' before first
      rw [go_total h first, before] at h'
      cases h'

/-- Sorted paths stand in their order. -/
theorem inOrder_sort (paths : List String) : InOrder less (sort paths) :=
  inOrder_sorted sortable_less paths

/-! ## Siblings -/

theorem go_append (front as bs : List Component) :
    go (front ++ as) (front ++ bs) = go as bs := by
  induction front with
  | nil => rfl
  | cons c front ih => simp [go, Component.less_irrefl, ih]

/-- Paths that differ in their last names alone are ordered as these names are. -/
theorem less_siblings {a b s t : String} {front : List Component}
    (first : components a = front ++ [.name s]) (second : components b = front ++ [.name t]) :
    less a b = true ↔ s < t := by
  rw [less, first, second, go_append, go_cons, Component.less_iff]
  simp [go, Component.less.rank]

/-! ## Each path once -/

variable {path : String} {paths : List String}

theorem distinct_subset (paths : List String) : distinct paths ⊆ paths := by
  induction paths with
  | nil => exact List.Subset.refl []
  | cons path rest ih =>
    rw [distinct]
    split
    · simp
    · next other kept all =>
      rw [all] at ih
      split
      · exact List.cons_subset_cons path (List.subset_of_cons_subset ih)
      · exact List.cons_subset_cons path ih

/-- Of equal paths one is kept. -/
theorem exists_same_of_mem (mem : path ∈ paths) :
    ∃ other ∈ distinct paths, components other = components path := by
  induction paths with
  | nil => cases mem
  | cons first rest ih =>
    rw [distinct]
    split
    · next none =>
      rcases List.mem_cons.mp mem with rfl | later
      · exact ⟨path, List.mem_cons_self, rfl⟩
      · obtain ⟨other, there, -⟩ := ih later
        rw [none] at there
        cases there
    · next neighbour kept all =>
      rw [all] at ih
      split
      · next equal =>
        have equal : components first = components neighbour := by simpa [same] using equal
        rcases List.mem_cons.mp mem with rfl | later
        · exact ⟨path, List.mem_cons_self, rfl⟩
        · obtain ⟨other, there, alike⟩ := ih later
          rcases List.mem_cons.mp there with rfl | there
          · exact ⟨first, List.mem_cons_self, equal.trans alike⟩
          · exact ⟨other, List.mem_cons_of_mem first there, alike⟩
      · rcases List.mem_cons.mp mem with rfl | later
        · exact ⟨path, List.mem_cons_self, rfl⟩
        · obtain ⟨other, there, alike⟩ := ih later
          exact ⟨other, List.mem_cons_of_mem first there, alike⟩

/-- Of paths in order those that are kept are in strictly ascending order. -/
theorem pairwise_distinct (order : InOrder less paths) :
    (distinct paths).Pairwise fun a b => less a b = true := by
  induction paths with
  | nil => exact List.Pairwise.nil
  | cons path rest ih =>
    obtain ⟨first, others⟩ := List.pairwise_cons.mp order
    have kept := distinct_subset rest
    have ascending := ih others
    rw [distinct]
    split
    · exact List.pairwise_singleton _ path
    · next neighbour after all =>
      rw [all] at kept ascending
      obtain ⟨before, later⟩ := List.pairwise_cons.mp ascending
      split
      · next equal =>
        have equal : components path = components neighbour := by simpa [same] using equal
        refine List.pairwise_cons.mpr ⟨fun other mem => ?_, later⟩
        have step := before other mem
        rwa [less, ← equal] at step
      · next differ =>
        have step : less path neighbour = true := by
          cases ordered : less path neighbour with
          | true => rfl
          | false =>
            have equal := go_total ordered (first neighbour (kept List.mem_cons_self))
            exact absurd (by simpa [same] using equal) differ
        refine List.pairwise_cons.mpr ⟨fun other mem => ?_, ascending⟩
        rcases List.mem_cons.mp mem with rfl | mem
        · exact step
        · exact go_trans step (before other mem)

end Path

end Assay.Files
