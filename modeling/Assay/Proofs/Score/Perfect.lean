import Assay.Proofs.Score.Pairs
import Assay.Proofs.Score.Portions
import Assay.Score.Answer
import Mathlib.Data.List.Pairwise
import Mathlib.Data.Set.Basic

/-!
# Perfect and one-sided cluster scores

In a clustering no item is repeated and no two clusters share one. Then the pairs of a cluster of at
least two items tell the whole cluster, so the score in exact arithmetic tells how two clusterings
lie to each other. Main statement: precision is one exactly if there is a predicted cluster of at
least two items and each of them lies inside an expected cluster; recall is one exactly if this
holds the other way round; all three numbers are one exactly if both sides have the same clusters of
at least two items, and have some.
-/

namespace Assay

/-- Lists of items in which no item is repeated, none of them shared by two lists. -/
structure Clustering (clusters : List (List τ)) : Prop where
  nodup : ∀ cluster ∈ clusters, cluster.Nodup
  disjoint : clusters.Pairwise fun cluster other => ∀ item ∈ cluster, item ∉ other

/-- The clusters of at least two items, as sets. -/
def pairedClusters (clusters : List (List τ)) : Set (Set τ) :=
  {items | ∃ cluster ∈ clusters, 2 ≤ cluster.length ∧ items = {item | item ∈ cluster}}

/-- There are clusters of at least two items, and each of them lies inside one of the others. -/
def LiesWithin (clusters others : List (List τ)) : Prop :=
  (∃ cluster ∈ clusters, 2 ≤ cluster.length) ∧
    ∀ cluster ∈ clusters, 2 ≤ cluster.length → ∃ other ∈ others, cluster ⊆ other

/-! ## Clusters and their pairs -/

/-- A list that has two different items is of length two at least. -/
theorem two_le_length {items : List τ} {a b : τ} (first : a ∈ items) (second : b ∈ items)
    (differ : a ≠ b) : 2 ≤ items.length := by
  have sub : [a, b] ⊆ items := by simp [first, second]
  exact (List.subperm_of_subset (by simpa using differ) sub).length_le

theorem ne_of_less [LT τ] [Std.Asymm (α := τ) (· < ·)] {a b : τ} (lt : a < b) : a ≠ b := by
  rintro rfl
  exact Std.Asymm.asymm _ _ lt lt

namespace Clustering

variable {clusters others : List (List τ)}

/-- An item belongs to one cluster only. -/
theorem unique (h : Clustering clusters) {cluster other : List τ} {item : τ}
    (first : cluster ∈ clusters) (second : other ∈ clusters) (mem : item ∈ cluster)
    (mem' : item ∈ other) : cluster = other := by
  apply Classical.byContradiction
  intro differ
  have symm : Std.Symm fun cluster other : List τ => ∀ item ∈ cluster, item ∉ other :=
    ⟨fun _ _ apart item here there => apart item there here⟩
  exact h.disjoint.forall first second differ item mem mem'

/-- A cluster lies inside one of the others if each two of its items do. -/
theorem exists_subset (h : Clustering others) {cluster : List τ} (differ : cluster.Nodup)
    (two : 2 ≤ cluster.length)
    (share : ∀ a ∈ cluster, ∀ b ∈ cluster, a ≠ b → ∃ other ∈ others, a ∈ other ∧ b ∈ other) :
    ∃ other ∈ others, cluster ⊆ other := by
  match cluster with
  | a :: b :: rest =>
    have apart : a ≠ b := by
      rintro rfl
      simp at differ
    obtain ⟨other, mem, first, -⟩ := share a (by simp) b (by simp) apart
    refine ⟨other, mem, ?_⟩
    -- the first item decides which cluster the others are in
    intro item inside
    by_cases same : a = item
    · exact same ▸ first
    · obtain ⟨another, mem', first', within⟩ := share a (by simp) item inside same
      rwa [h.unique mem mem' first first']

/-- If the clusters of each side lie inside clusters of the other side, those of at least two items
are among those of the other side: going there and back leads to a cluster that shares an item. -/
theorem pairedClusters_subset (h : Clustering clusters)
    (within : ∀ cluster ∈ clusters, 2 ≤ cluster.length → ∃ other ∈ others, cluster ⊆ other)
    (within' : ∀ other ∈ others, 2 ≤ other.length → ∃ cluster ∈ clusters, other ⊆ cluster) :
    pairedClusters clusters ⊆ pairedClusters others := by
  rintro items ⟨cluster, mem, two, rfl⟩
  obtain ⟨other, mem', sub⟩ := within cluster mem two
  have two' : 2 ≤ other.length :=
    two.trans (List.subperm_of_subset (h.nodup cluster mem) sub).length_le
  obtain ⟨back, mem'', sub'⟩ := within' other mem' two'
  obtain ⟨item, first⟩ := List.exists_mem_of_length_pos (Nat.lt_of_lt_of_le Nat.two_pos two)
  obtain rfl : cluster = back := h.unique mem mem'' first (sub' (sub first))
  refine ⟨other, mem', two', ?_⟩
  exact Set.ext fun item => ⟨fun mem => sub mem, fun mem => sub' mem⟩

theorem liesWithin_of_subset (sub : pairedClusters clusters ⊆ pairedClusters others)
    (some : (pairedClusters clusters).Nonempty) : LiesWithin clusters others := by
  constructor
  · obtain ⟨items, cluster, mem, two, -⟩ := some
    exact ⟨cluster, mem, two⟩
  · intro cluster mem two
    obtain ⟨other, mem', -, same⟩ := sub ⟨cluster, mem, two, rfl⟩
    exact ⟨other, mem', same.subset⟩

/-- Clusterings lie within each other exactly if they have the same clusters of at least two items,
and have some. -/
theorem liesWithin_and_iff (h : Clustering clusters) (h' : Clustering others) :
    LiesWithin clusters others ∧ LiesWithin others clusters ↔
      pairedClusters clusters = pairedClusters others ∧ (pairedClusters clusters).Nonempty := by
  constructor
  · rintro ⟨⟨⟨cluster, mem, two⟩, within⟩, -, within'⟩
    refine ⟨Set.Subset.antisymm (h.pairedClusters_subset within within')
      (h'.pairedClusters_subset within' within), ?_⟩
    exact ⟨{item | item ∈ cluster}, cluster, mem, two, rfl⟩
  · rintro ⟨same, some⟩
    exact ⟨liesWithin_of_subset same.subset some,
      liesWithin_of_subset same.symm.subset (same ▸ some)⟩

variable [LT τ] [DecidableLT τ] [DecidableEq τ] [Std.Asymm (α := τ) (· < ·)]
  [Std.Trichotomous (α := τ) (· < ·)]

/-- Two different items of a cluster make a pair, in one order or the other. -/
theorem pair_or {clusters cluster} {a b : τ} (mem : cluster ∈ clusters) (first : a ∈ cluster)
    (second : b ∈ cluster) (differ : a ≠ b) :
    (a, b) ∈ clusterPairs clusters ∨ (b, a) ∈ clusterPairs clusters := by
  rw [mem_clusterPairs, mem_clusterPairs, shareCluster_iff, shareCluster_iff]
  by_cases lt : a < b
  · exact .inl ⟨lt, cluster, mem, first, second⟩
  · by_cases gt : b < a
    · exact .inr ⟨gt, cluster, mem, second, first⟩
    · exact absurd (Std.Trichotomous.trichotomous a b lt gt) differ

/-- There are pairs exactly if there is a cluster of at least two items. -/
theorem clusterPairs_ne_nil_iff (h : Clustering clusters) :
    clusterPairs clusters ≠ [] ↔ ∃ cluster ∈ clusters, 2 ≤ cluster.length := by
  constructor
  · intro some
    obtain ⟨⟨a, b⟩, mem⟩ := List.exists_mem_of_ne_nil _ some
    obtain ⟨lt, shared⟩ := mem_clusterPairs.mp mem
    obtain ⟨cluster, mem, first, second⟩ := shareCluster_iff.mp shared
    exact ⟨cluster, mem, two_le_length first second (ne_of_less lt)⟩
  · rintro ⟨cluster, mem, two⟩ none
    match cluster with
    | a :: b :: rest =>
      have differ := h.nodup _ mem
      have apart : a ≠ b := by
        rintro rfl
        simp at differ
      have pair := pair_or (a := a) (b := b) mem (by simp) (by simp) apart
      simp [none] at pair

/-- Every pair is one of the others exactly if every cluster of at least two items lies inside one
of the others. -/
theorem forall_shareCluster_iff (h : Clustering clusters) (h' : Clustering others) :
    (∀ pair ∈ clusterPairs clusters, shareCluster others pair = true) ↔
      ∀ cluster ∈ clusters, 2 ≤ cluster.length → ∃ other ∈ others, cluster ⊆ other := by
  constructor
  · intro shared cluster mem two
    refine h'.exists_subset (h.nodup cluster mem) two ?_
    intro a first b second differ
    rcases pair_or mem first second differ with pair | pair
    · obtain ⟨other, mem, first, second⟩ := shareCluster_iff.mp (shared _ pair)
      exact ⟨other, mem, first, second⟩
    · obtain ⟨other, mem, second, first⟩ := shareCluster_iff.mp (shared _ pair)
      exact ⟨other, mem, first, second⟩
  · rintro within ⟨a, b⟩ pair
    obtain ⟨lt, shared⟩ := mem_clusterPairs.mp pair
    obtain ⟨cluster, mem, first, second⟩ := shareCluster_iff.mp shared
    obtain ⟨other, mem', sub⟩ := within cluster mem (two_le_length first second (ne_of_less lt))
    exact shareCluster_iff.mpr ⟨other, mem', sub first, sub second⟩

end Clustering

/-! ## Scores in exact arithmetic -/

section
variable [LT τ] [DecidableLT τ] [DecidableEq τ] [Std.Asymm (α := τ) (· < ·)]
  [Std.Trichotomous (α := τ) (· < ·)] {predicted actual : List (List τ)}

/-- All pairs are common ones, and there are some, exactly if the clustering lies within the
other. -/
theorem Clustering.countP_eq_length_iff (h : Clustering predicted) (h' : Clustering actual) :
    ((clusterPairs predicted).length ≠ 0 ∧
      (clusterPairs predicted).countP (shareCluster actual) = (clusterPairs predicted).length) ↔
      LiesWithin predicted actual := by
  rw [List.countP_eq_length, h.forall_shareCluster_iff h', ne_eq, List.length_eq_zero_iff, ← ne_eq,
    h.clusterPairs_ne_nil_iff]
  rfl

theorem precision_eq_one_iff (h : Clustering predicted) (h' : Clustering actual) :
    (clusterScore predicted actual : Prf Rat).precision = 1 ↔ LiesWithin predicted actual := by
  rw [clusterScore, (Prf.ofCounts_rat _ _ _).1, portion_eq_one_iff, h.countP_eq_length_iff h']

theorem recalled_eq_one_iff (h : Clustering predicted) (h' : Clustering actual) :
    (clusterScore predicted actual : Prf Rat).recalled = 1 ↔ LiesWithin actual predicted := by
  rw [clusterScore, (Prf.ofCounts_rat _ _ _).2, portion_eq_one_iff,
    countP_clusterPairs_comm, h'.countP_eq_length_iff h]

end

/-! ## Keys in order -/

namespace ItemKey

theorem less_iff {a b : ItemKey} : a < b ↔ less a b = true := Iff.rfl

instance : Std.Asymm (α := ItemKey) (· < ·) where
  asymm a b h h' := by
    rw [less_iff] at h h'
    cases a <;> cases b
    · exact String.lt_asymm (of_decide_eq_true h) (of_decide_eq_true h')
    · cases h'
    · cases h
    · exact String.lt_asymm (of_decide_eq_true h) (of_decide_eq_true h')

instance : Std.Trichotomous (α := ItemKey) (· < ·) where
  trichotomous a b h h' := by
    rw [less_iff] at h h'
    have ordered {s t : String} (le : ¬ decide (s < t) = true) (le' : ¬ decide (t < s) = true) :
        s = t :=
      String.le_antisymm (fun lt => le' (decide_eq_true lt)) fun lt => le (decide_eq_true lt)
    cases a <;> cases b
    · exact congrArg _ (ordered h h')
    · exact absurd rfl h
    · exact absurd rfl h'
    · exact congrArg _ (ordered h h')

end ItemKey

/-! ## Scores of answers -/

/-- **What perfect and one-sided cluster scores mean**, in exact arithmetic and for answers that are
clusterings by the keys of their items. -/
theorem perfect_score_iff (expected output : Json) (gold : Clustering (answerClusters expected))
    (given : Clustering (answerClusters output)) :
    let score : Register Rat := Metric.clusterPrf1.score expected output
    (score.get? "precision" = some 1 ↔
        LiesWithin (answerClusters output) (answerClusters expected)) ∧
      (score.get? "recall" = some 1 ↔
        LiesWithin (answerClusters expected) (answerClusters output)) ∧
      (score.get? "precision" = some 1 ∧ score.get? "recall" = some 1 ∧ score.get? "f1" = some 1 ↔
        pairedClusters (answerClusters output) = pairedClusters (answerClusters expected) ∧
          (pairedClusters (answerClusters output)).Nonempty) := by
  intro score
  let numbers : Prf Rat := clusterScore (answerClusters output) (answerClusters expected)
  have precision : score.get? "precision" = some numbers.precision := rfl
  have recalled : score.get? "recall" = some numbers.recalled := rfl
  have f1 : score.get? "f1" = some numbers.f1 := rfl
  rw [precision, recalled, f1, Option.some_inj, Option.some_inj, Option.some_inj,
    precision_eq_one_iff given gold, recalled_eq_one_iff given gold,
    ← given.liesWithin_and_iff gold]
  refine ⟨Iff.rfl, Iff.rfl, ?_⟩
  constructor
  · rintro ⟨within, within', -⟩
    exact ⟨within, within'⟩
  · rintro ⟨within, within'⟩
    exact ⟨within, within', Prf.f1_eq_one ((precision_eq_one_iff given gold).mpr within)
      ((recalled_eq_one_iff given gold).mpr within')⟩

/-- Three items together and one alone. -/
def wholeAnswer : Json := .arr [.arr [.str "p", .str "q", .str "m"], .arr [.str "x"]]

/-- The three items in two clusters, with a cluster that is no list. -/
def splitAnswer : Json := .arr [.arr [.str "q", .str "p"], .arr [.str "m"], .str "x"]

/-- An answer that splits a cluster is precise, but it is not complete. -/
theorem perfect_score_split :
    (Metric.clusterPrf1.score wholeAnswer splitAnswer : Register Rat).get? "precision" = some 1 ∧
      (Metric.clusterPrf1.score wholeAnswer splitAnswer : Register Rat).get? "recall" ≠
        some 1 := by
  have gold : Clustering (answerClusters wholeAnswer) := ⟨by decide, by decide⟩
  have given : Clustering (answerClusters splitAnswer) := ⟨by decide, by decide⟩
  obtain ⟨precise, complete, -⟩ := perfect_score_iff wholeAnswer splitAnswer gold given
  constructor
  · exact precise.mpr ⟨by decide, by decide⟩
  · intro one
    obtain ⟨-, within⟩ := complete.mp one
    revert within
    decide

end Assay
