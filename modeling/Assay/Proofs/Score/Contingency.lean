import Assay.Proofs.Score.Measure
import Assay.Proofs.Score.Perfect
import Mathlib.Algebra.BigOperators.Group.List.Basic

/-!
# Cluster scores by the contingency table

The contingency table of two clusterings has the number of common items for each predicted and each
actual cluster. It tells the score of the clusterings without their pairs being listed, since `k`
items make `k * (k - 1) / 2` pairs. The common pairs of the two are the pairs of their meet, whose
clusters are what a predicted and an actual cluster have in common; the meet is a clustering again,
so no pair is counted twice. Main statement: in exact arithmetic precision, recall and their
harmonic mean are the portions that the pairs of the table are of those of the clusters on either
side and on both sides.
-/

namespace Assay

/-! ## Pairs of one cluster -/

/-- The number of pairs that `k` different items make. -/
def pairCount (k : Nat) : Nat :=
  k * (k - 1) / 2

theorem pairCount_succ (k : Nat) : pairCount (k + 1) = pairCount k + k :=
  Nat.triangle_succ k

/-- Each two items of a list without repetitions make one pair. -/
theorem length_pairsWithin [LT τ] [DecidableLT τ] [Std.Trichotomous (α := τ) (· < ·)]
    {items : List τ} (differ : items.Nodup) :
    (pairsWithin items).length = pairCount items.length := by
  induction items with
  | nil => simp [pairsWithin, pairCount]
  | cons item rest ih =>
    obtain ⟨fresh, differ⟩ := List.nodup_cons.mp differ
    have with_first : (rest.filterMap (orderedPair item)).length = rest.length := by
      rw [List.filterMap_length_eq_length]
      intro other mem
      unfold orderedPair
      split
      · rfl
      · next not_less =>
        split
        · rfl
        · next not_greater =>
          have same := Std.Trichotomous.trichotomous item other not_less not_greater
          exact absurd (same ▸ mem) fresh
    rw [pairsWithin, List.length_append, with_first, ih differ, List.length_cons, pairCount_succ,
      Nat.add_comm]

/-- The number of pairs that the clusters of a clustering make. -/
def pairTotal (clusters : List (List τ)) : Nat :=
  (clusters.map fun cluster => pairCount cluster.length).sum

theorem pairTotal_append (clusters others : List (List τ)) :
    pairTotal (clusters ++ others) = pairTotal clusters + pairTotal others := by
  rw [pairTotal, List.map_append, List.sum_append]
  rfl

/-! ## The contingency table and the meet -/

section
variable [DecidableEq τ]

/-- The number of pairs that the entries of the contingency table make. -/
def tablePairTotal (predicted actual : List (List τ)) : Nat :=
  (predicted.map fun given =>
    (actual.map fun gold => pairCount (given.toFinset ∩ gold.toFinset).card).sum).sum

/-- What each cluster has in common with each of the others. -/
def meet (clusters others : List (List τ)) : List (List τ) :=
  clusters.flatMap fun cluster => others.map fun other => cluster.filter fun item => item ∈ other

theorem mem_meet {clusters others : List (List τ)} {common : List τ} :
    common ∈ meet clusters others ↔ ∃ cluster ∈ clusters, ∃ other ∈ others,
      (cluster.filter fun item => item ∈ other) = common := by
  simp only [meet, List.mem_flatMap, List.mem_map]

/-- The meet of two clusterings is a clustering: its parts of one cluster lie in different ones of
the others, and its parts of two clusters have no item in common anyway. -/
theorem clustering_meet {clusters others : List (List τ)} (h : Clustering clusters)
    (h' : Clustering others) : Clustering (meet clusters others) := by
  constructor
  · intro common mem
    obtain ⟨cluster, whole, other, -, rfl⟩ := mem_meet.mp mem
    exact (h.nodup cluster whole).filter _
  · rw [meet, List.pairwise_flatMap]
    constructor
    · intro cluster _
      rw [List.pairwise_map]
      refine h'.disjoint.imp fun apart item here there => ?_
      exact apart item (of_decide_eq_true (List.mem_filter.mp here).2)
        (of_decide_eq_true (List.mem_filter.mp there).2)
    · refine h.disjoint.imp fun apart part mem part' mem' item here there => ?_
      obtain ⟨other, -, rfl⟩ := List.mem_map.mp mem
      obtain ⟨other', -, rfl⟩ := List.mem_map.mp mem'
      exact apart item (List.mem_filter.mp here).1 (List.mem_filter.mp there).1

/-- Two items share a cluster of the meet exactly if they share one on either side. -/
theorem shareCluster_meet {clusters others : List (List τ)} {pair : τ × τ} :
    shareCluster (meet clusters others) pair = true ↔
      shareCluster clusters pair = true ∧ shareCluster others pair = true := by
  simp only [shareCluster_iff, mem_meet]
  constructor
  · rintro ⟨_, ⟨cluster, mem, other, mem', rfl⟩, first, second⟩
    obtain ⟨first, first'⟩ := List.mem_filter.mp first
    obtain ⟨second, second'⟩ := List.mem_filter.mp second
    exact ⟨⟨cluster, mem, first, second⟩,
      other, mem', of_decide_eq_true first', of_decide_eq_true second'⟩
  · rintro ⟨⟨cluster, mem, first, second⟩, other, mem', first', second'⟩
    exact ⟨_, ⟨cluster, mem, other, mem', rfl⟩, List.mem_filter.mpr ⟨first, decide_eq_true first'⟩,
      List.mem_filter.mpr ⟨second, decide_eq_true second'⟩⟩

/-- The pairs of the meet are those of the contingency table. -/
theorem pairTotal_meet {predicted : List (List τ)} (differ : ∀ cluster ∈ predicted, cluster.Nodup)
    (actual : List (List τ)) :
    pairTotal (meet predicted actual) = tablePairTotal predicted actual := by
  induction predicted with
  | nil => rfl
  | cons given rest ih =>
    obtain ⟨given_differ, differ⟩ := List.forall_mem_cons.mp differ
    have row : pairTotal (actual.map fun gold => given.filter fun item => item ∈ gold) =
        (actual.map fun gold => pairCount (given.toFinset ∩ gold.toFinset).card).sum := by
      rw [pairTotal, List.map_map]
      refine congrArg List.sum (List.map_congr_left fun gold _ => ?_)
      exact congrArg pairCount (commonCount_eq_card given_differ gold)
    rw [meet, List.flatMap_cons, pairTotal_append, row, ← meet, ih differ]
    rfl

/-! ## Pairs counted by the table -/

variable [LT τ] [DecidableLT τ] [Std.Asymm (α := τ) (· < ·)]

/-- The common pairs of two clusterings are the pairs of their meet. -/
theorem toFinset_clusterPairs_meet (clusters others : List (List τ)) :
    (clusterPairs (meet clusters others)).toFinset =
      (clusterPairs clusters).toFinset ∩ (clusterPairs others).toFinset := by
  ext pair
  rw [Finset.mem_inter, List.mem_toFinset, List.mem_toFinset, List.mem_toFinset, mem_clusterPairs,
    mem_clusterPairs, mem_clusterPairs, shareCluster_meet]
  exact and_and_left

variable [Std.Trichotomous (α := τ) (· < ·)]

/-- The pairs of a clustering are counted cluster by cluster, as no two of its clusters share a
pair. -/
theorem Clustering.length_clusterPairs {clusters : List (List τ)} (h : Clustering clusters) :
    (clusterPairs clusters).length = pairTotal clusters := by
  induction clusters with
  | nil => rfl
  | cons cluster rest ih =>
    obtain ⟨apart, disjoint⟩ := List.pairwise_cons.mp h.disjoint
    obtain ⟨differ, nodup⟩ := List.forall_mem_cons.mp h.nodup
    have unshared : ∀ pair ∈ pairsWithin cluster.eraseDups, (!shareCluster rest pair) = true := by
      intro pair made
      rw [Bool.not_eq_true', Bool.eq_false_iff, ne_eq, shareCluster_iff]
      rintro ⟨other, mem, first, -⟩
      obtain ⟨-, first', -⟩ := mem_pairsWithin.mp made
      exact apart other mem pair.1 (List.mem_eraseDups.mp first') first
    rw [clusterPairs, List.length_append, List.filter_eq_self.mpr unshared, ih ⟨nodup, disjoint⟩,
      length_pairsWithin (nodup_eraseDups cluster), length_eraseDups,
      List.toFinset_card_of_nodup differ]
    rfl

theorem Clustering.card_clusterPairs {clusters : List (List τ)} (h : Clustering clusters) :
    (clusterPairs clusters).toFinset.card = pairTotal clusters := by
  rw [List.toFinset_card_of_nodup (nodup_clusterPairs clusters), h.length_clusterPairs]

/-- **The score of two clusterings is that of the contingency table.** -/
theorem clusterScore_eq_contingency {predicted actual : List (List τ)}
    (given : Clustering predicted) (gold : Clustering actual) :
    clusterScore predicted actual =
      Prf.portions (tablePairTotal predicted actual) (pairTotal predicted) (pairTotal actual) := by
  rw [clusterScore_eq_overlapScore, overlapScore_eq_setMeasure, setMeasure,
    ← toFinset_clusterPairs_meet, (clustering_meet given gold).card_clusterPairs,
    pairTotal_meet given.nodup, given.card_clusterPairs, gold.card_clusterPairs]

end

/-- Two pairs are common of the four that are predicted and the six that are actual; empty clusters
and single items make none. -/
theorem clusterScore_eq_contingency_crossed :
    (clusterScore [[1, 2, 3], [4], [6, 5]] [[4, 2, 3], [], [6, 5, 1]] : Prf Rat) =
      ⟨1 / 2, 1 / 3, 2 / 5⟩ := by
  have given : Clustering [[1, 2, 3], [4], [6, 5]] := ⟨by decide, by decide⟩
  have gold : Clustering [[4, 2, 3], [], [6, 5, 1]] := ⟨by decide, by decide⟩
  have common : tablePairTotal [[1, 2, 3], [4], [6, 5]] [[4, 2, 3], [], [6, 5, 1]] = 2 := by decide
  have predicted : pairTotal [[1, 2, 3], [4], [6, 5]] = 4 := by decide
  have actual : pairTotal [[4, 2, 3], [], [6, 5, 1]] = 6 := by decide
  rw [clusterScore_eq_contingency given gold, common, predicted, actual]
  norm_num [Prf.portions, portion]

end Assay
