import Assay.Score.Cluster
import Mathlib.Data.List.Nodup
import Mathlib.Data.List.Perm.Basic

/-!
# The pairs of a clustering

The pairs of a clustering are the ordered pairs of items that share a cluster, each listed once. So
the number of common pairs of two clusterings does not depend on the side from which they are
counted. All this holds of items in any order in which different items compare one way only.
-/

namespace Assay

/-- A list without its repetitions has none. -/
theorem nodup_eraseDups [DecidableEq τ] (items : List τ) : items.eraseDups.Nodup := by
  cases items with
  | nil => simp
  | cons item rest =>
    rw [List.eraseDups_cons, List.nodup_cons]
    refine ⟨?_, nodup_eraseDups _⟩
    simp [List.mem_eraseDups]
termination_by items.length
decreasing_by
  have le := List.length_filter_le (fun other => !other == item) rest
  rw [List.length_cons]
  omega

theorem shareCluster_iff [DecidableEq τ] {clusters : List (List τ)} {pair : τ × τ} :
    shareCluster clusters pair = true ↔
      ∃ cluster ∈ clusters, pair.1 ∈ cluster ∧ pair.2 ∈ cluster := by
  simp [shareCluster]

/-! ## Pairs of one cluster -/

section
variable [LT τ] [DecidableLT τ]

section
variable [Std.Asymm (α := τ) (· < ·)]

/-- The ordered pair of two items has both of them, the smaller one first. -/
theorem orderedPair_eq_some {a b : τ} {pair : τ × τ} :
    orderedPair a b = some pair ↔ pair.1 < pair.2 ∧ (pair = (a, b) ∨ pair = (b, a)) := by
  unfold orderedPair
  constructor
  · intro h
    split at h
    · next lt =>
      cases h
      exact ⟨lt, .inl rfl⟩
    · split at h
      · next gt =>
        cases h
        exact ⟨gt, .inr rfl⟩
      · cases h
  · rintro ⟨lt, rfl | rfl⟩
    · rw [if_pos lt]
    · rw [if_neg (Std.Asymm.asymm _ _ lt), if_pos lt]

/-- Two items of a list make a pair of it exactly if the first is less than the second. -/
theorem mem_pairsWithin {items : List τ} {pair : τ × τ} :
    pair ∈ pairsWithin items ↔ pair.1 < pair.2 ∧ pair.1 ∈ items ∧ pair.2 ∈ items := by
  obtain ⟨a, b⟩ := pair
  induction items with
  | nil => simp [pairsWithin]
  | cons item rest ih =>
    have with_first : (a, b) ∈ rest.filterMap (orderedPair item) ↔
        a < b ∧ (a = item ∧ b ∈ rest ∨ b = item ∧ a ∈ rest) := by
      simp only [List.mem_filterMap, orderedPair_eq_some, Prod.mk.injEq]
      constructor
      · rintro ⟨other, mem, lt, ⟨rfl, rfl⟩ | ⟨rfl, rfl⟩⟩
        · exact ⟨lt, .inl ⟨rfl, mem⟩⟩
        · exact ⟨lt, .inr ⟨rfl, mem⟩⟩
      · rintro ⟨lt, ⟨rfl, mem⟩ | ⟨rfl, mem⟩⟩
        · exact ⟨b, mem, lt, .inl ⟨rfl, rfl⟩⟩
        · exact ⟨a, mem, lt, .inr ⟨rfl, rfl⟩⟩
    rw [pairsWithin, List.mem_append, with_first, ih]
    simp only [List.mem_cons]
    constructor
    · rintro (⟨lt, ⟨rfl, mem⟩ | ⟨rfl, mem⟩⟩ | ⟨lt, first, second⟩)
      · exact ⟨lt, .inl rfl, .inr mem⟩
      · exact ⟨lt, .inr mem, .inl rfl⟩
      · exact ⟨lt, .inr first, .inr second⟩
    · rintro ⟨lt, rfl | first, rfl | second⟩
      · exact absurd lt (Std.Asymm.asymm _ _ lt)
      · exact .inl ⟨lt, .inl ⟨rfl, second⟩⟩
      · exact .inl ⟨lt, .inr ⟨rfl, first⟩⟩
      · exact .inr ⟨lt, first, second⟩

theorem nodup_pairsWithin {items : List τ} (differ : items.Nodup) : (pairsWithin items).Nodup := by
  induction items with
  | nil => exact List.nodup_nil
  | cons item rest ih =>
    obtain ⟨fresh, differ⟩ := List.nodup_cons.mp differ
    rw [pairsWithin, List.nodup_append]
    refine ⟨?_, ih differ, ?_⟩
    · refine differ.filterMap ?_
      intro a b pair first second
      obtain ⟨-, rfl | rfl⟩ := orderedPair_eq_some.mp first
      · obtain ⟨-, same | same⟩ := orderedPair_eq_some.mp second <;> simp_all
      · obtain ⟨-, same | same⟩ := orderedPair_eq_some.mp second <;> simp_all
    · -- a pair of the first item is no pair of the others, as the first item is not among them
      rintro pair first _ second rfl
      obtain ⟨other, -, made⟩ := List.mem_filterMap.mp first
      obtain ⟨-, left, right⟩ := mem_pairsWithin.mp second
      obtain ⟨-, rfl | rfl⟩ := orderedPair_eq_some.mp made
      · exact fresh left
      · exact fresh right

end

/-! ## Pairs of a clustering -/

variable [DecidableEq τ] [Std.Asymm (α := τ) (· < ·)]

/-- Two items make a pair of a clustering exactly if the first is less than the second and they
share a cluster. -/
theorem mem_clusterPairs {clusters : List (List τ)} {pair : τ × τ} :
    pair ∈ clusterPairs clusters ↔ pair.1 < pair.2 ∧ shareCluster clusters pair = true := by
  induction clusters with
  | nil => simp [clusterPairs, shareCluster]
  | cons cluster rest ih =>
    have cons : shareCluster (cluster :: rest) pair = true ↔
        pair.1 ∈ cluster ∧ pair.2 ∈ cluster ∨ shareCluster rest pair = true := by
      simp [shareCluster]
    rw [clusterPairs, List.mem_append, ih, List.mem_filter, mem_pairsWithin, cons,
      List.mem_eraseDups, List.mem_eraseDups]
    cases shareCluster rest pair <;> simp

theorem nodup_clusterPairs (clusters : List (List τ)) : (clusterPairs clusters).Nodup := by
  induction clusters with
  | nil => exact List.nodup_nil
  | cons cluster rest ih =>
    rw [clusterPairs, List.nodup_append]
    refine ⟨(nodup_pairsWithin (nodup_eraseDups cluster)).filter _, ih, ?_⟩
    rintro pair first _ second rfl
    have unshared := (List.mem_filter.mp first).2
    rw [(mem_clusterPairs.mp second).2] at unshared
    cases unshared

/-- The common pairs of two clusterings can be counted on either side. -/
theorem countP_clusterPairs_comm (clusters others : List (List τ)) :
    (clusterPairs clusters).countP (shareCluster others) =
      (clusterPairs others).countP (shareCluster clusters) := by
  rw [List.countP_eq_length_filter, List.countP_eq_length_filter]
  apply List.Perm.length_eq
  refine (List.perm_ext_iff_of_nodup ((nodup_clusterPairs clusters).filter _)
    ((nodup_clusterPairs others).filter _)).mpr ?_
  intro pair
  simp only [List.mem_filter, mem_clusterPairs]
  constructor
  · rintro ⟨⟨lt, here⟩, there⟩
    exact ⟨⟨lt, there⟩, here⟩
  · rintro ⟨⟨lt, there⟩, here⟩
    exact ⟨⟨lt, here⟩, there⟩

end

end Assay
