import Assay.Proofs.Score.Perfect

/-!
# Cluster scores ignore how clusters are presented

The pairs of a clustering are the ordered pairs of items that share a cluster, so the score of two
clusterings depends on nothing else of them. Main statement: this is so for items of any order in
which different items compare one way only, and the score of two answers stays the same, in any
arithmetic, when one or both of them are presented in another way (`Regrouped`): in another order,
with repetitions, with parts of clusters beside them, or with clusters that put nothing together.
-/

namespace Assay

/-! ## Scores depend on the pairs only -/

/-- Two clusterings put the same different items together. -/
def SameTogether (clusters others : List (List τ)) : Prop :=
  ∀ a b, a ≠ b → ((∃ cluster ∈ clusters, a ∈ cluster ∧ b ∈ cluster) ↔
    ∃ cluster ∈ others, a ∈ cluster ∧ b ∈ cluster)

namespace SameTogether

theorem symm {clusters others : List (List τ)} (h : SameTogether clusters others) :
    SameTogether others clusters :=
  fun a b differ => (h a b differ).symm

theorem trans {clusters middle others : List (List τ)} (h : SameTogether clusters middle)
    (h' : SameTogether middle others) : SameTogether clusters others :=
  fun a b differ => (h a b differ).trans (h' a b differ)

variable [LT τ] [DecidableEq τ] [Std.Asymm (α := τ) (· < ·)] {clusters others : List (List τ)}

theorem shareCluster_eq (h : SameTogether clusters others) {pair : τ × τ}
    (ordered : pair.1 < pair.2) : shareCluster clusters pair = shareCluster others pair := by
  rw [Bool.eq_iff_iff, shareCluster_iff, shareCluster_iff]
  exact h pair.1 pair.2 (ne_of_less ordered)

/-- The pairs are the same, in whatever order they are listed. -/
theorem clusterPairs_perm [DecidableLT τ] (h : SameTogether clusters others) :
    (clusterPairs clusters).Perm (clusterPairs others) := by
  refine (List.perm_ext_iff_of_nodup (nodup_clusterPairs clusters) (nodup_clusterPairs others)).mpr
    fun pair => ?_
  rw [mem_clusterPairs, mem_clusterPairs]
  exact and_congr_right fun ordered => by rw [h.shareCluster_eq ordered]

end SameTogether

/-- A score counts pairs, so it is the same for clusterings that put the same items together. -/
theorem clusterScore_congr [Arithmetic α] [LT τ] [DecidableLT τ] [DecidableEq τ]
    [Std.Asymm (α := τ) (· < ·)] {predicted predicted' actual actual' : List (List τ)}
    (left : SameTogether predicted predicted') (right : SameTogether actual actual') :
    (clusterScore predicted actual : Prf α) = clusterScore predicted' actual' := by
  have common : (clusterPairs predicted).countP (shareCluster actual) =
      (clusterPairs predicted').countP (shareCluster actual') := by
    rw [left.clusterPairs_perm.countP_eq]
    refine List.countP_congr fun pair mem => ?_
    rw [right.shareCluster_eq (mem_clusterPairs.mp mem).1]
  rw [clusterScore, clusterScore, common, left.clusterPairs_perm.length_eq,
    right.clusterPairs_perm.length_eq]

/-! ## Clusters in another form -/

section
variable {clusters others front back : List (List τ)} {cluster other : List τ}

theorem SameTogether.of_perm (h : clusters.Perm others) : SameTogether clusters others := by
  intro a b _
  exact ⟨fun ⟨cluster, mem, both⟩ => ⟨cluster, h.mem_iff.mp mem, both⟩,
    fun ⟨cluster, mem, both⟩ => ⟨cluster, h.mem_iff.mpr mem, both⟩⟩

/-- One cluster may be replaced by another list of the same items. -/
theorem SameTogether.of_items (same : ∀ item, item ∈ cluster ↔ item ∈ other) :
    SameTogether (front ++ cluster :: back) (front ++ other :: back) := by
  intro a b _
  simp only [List.mem_append, List.mem_cons, or_and_right, exists_or, exists_eq_left, same]

/-- A cluster may be added if each two different items of it share a cluster already. -/
theorem SameTogether.of_shared (shared : ∀ a ∈ cluster, ∀ b ∈ cluster, a ≠ b →
    ∃ other ∈ clusters, a ∈ other ∧ b ∈ other) : SameTogether clusters (cluster :: clusters) := by
  intro a b differ
  constructor
  · rintro ⟨other, mem, both⟩
    exact ⟨other, List.mem_cons_of_mem _ mem, both⟩
  · rintro ⟨other, mem, first, second⟩
    rcases List.mem_cons.mp mem with rfl | mem
    · exact shared a first b second differ
    · exact ⟨other, mem, first, second⟩

theorem SameTogether.of_subset (mem : other ∈ clusters) (sub : cluster ⊆ other) :
    SameTogether clusters (cluster :: clusters) :=
  .of_shared fun _ first _ second _ => ⟨other, mem, sub first, sub second⟩

theorem SameTogether.of_short (few : cluster.length ≤ 1) :
    SameTogether clusters (cluster :: clusters) := by
  refine .of_shared fun a first b second differ => ?_
  have two := two_le_length first second differ
  omega

end

/-! ## Answers in another form -/

/-- Two answers present one clustering. Items count by their keys, as they do in a score. What is
added may be left out again, at any place, since the relation is symmetric and transitive. -/
inductive Regrouped : Json → Json → Prop
  | refl (answer : Json) : Regrouped answer answer
  | symm {answer other} (h : Regrouped answer other) : Regrouped other answer
  | trans {answer middle other} (h : Regrouped answer middle) (h' : Regrouped middle other) :
      Regrouped answer other
  /-- The clusters are in another order. -/
  | clusters {clusters others} (h : clusters.Perm others) :
      Regrouped (.arr clusters) (.arr others)
  /-- The items of a cluster are in another order. -/
  | items {front back items others} (h : items.Perm others) :
      Regrouped (.arr (front ++ .arr items :: back)) (.arr (front ++ .arr others :: back))
  /-- An item of a cluster is repeated in it. -/
  | repetition {front back items item} (mem : ItemKey.ofJson item ∈ items.map ItemKey.ofJson) :
      Regrouped (.arr (front ++ .arr items :: back)) (.arr (front ++ .arr (item :: items) :: back))
  /-- A part of a cluster, or all of it, is added as one more cluster. -/
  | part {clusters cluster whole} (mem : whole ∈ clusters)
      (sub : answerItems cluster ⊆ answerItems whole) :
      Regrouped (.arr clusters) (.arr (cluster :: clusters))
  /-- A cluster is added that is empty, has one item only, or is no list. -/
  | alone {clusters cluster} (few : (answerItems cluster).length ≤ 1) :
      Regrouped (.arr clusters) (.arr (cluster :: clusters))

theorem answerClusters_arr (clusters : List Json) :
    answerClusters (.arr clusters) = clusters.map answerItems := rfl

theorem answerItems_arr (items : List Json) :
    answerItems (.arr items) = items.map ItemKey.ofJson := rfl

/-- Answers that present one clustering put the same items together. -/
theorem Regrouped.sameTogether {answer other : Json} (h : Regrouped answer other) :
    SameTogether (answerClusters answer) (answerClusters other) := by
  induction h with
  | refl answer => exact .of_perm (.refl _)
  | symm _ ih => exact ih.symm
  | trans _ _ ih ih' => exact ih.trans ih'
  | clusters h => exact .of_perm (h.map answerItems)
  | items h =>
    simp only [answerClusters_arr, List.map_append, List.map_cons]
    refine .of_items fun item => ?_
    rw [answerItems_arr, answerItems_arr, (h.map ItemKey.ofJson).mem_iff]
  | repetition mem =>
    simp only [answerClusters_arr, List.map_append, List.map_cons]
    refine .of_items fun item => ?_
    rw [answerItems_arr, answerItems_arr, List.map_cons, List.mem_cons]
    exact ⟨.inr, fun either => either.elim (fun same => same ▸ mem) id⟩
  | part mem sub => exact .of_subset (List.mem_map_of_mem mem) sub
  | alone few => exact .of_short few

/-- **The pairs of a clustering are the items that share a cluster, and its score depends on nothing
else.** A pair is listed once, the smaller item first, whatever the order of the items is. So the
score of two answers is the same, to the last bit, however each of them is presented. -/
theorem cluster_score_ignores_presentation :
    (∀ {τ : Type u} [LT τ] [DecidableLT τ] [DecidableEq τ] [Std.Asymm (α := τ) (· < ·)]
        (clusters : List (List τ)), (clusterPairs clusters).Nodup ∧
        ∀ a b, (a, b) ∈ clusterPairs clusters ↔
          a < b ∧ ∃ cluster ∈ clusters, a ∈ cluster ∧ b ∈ cluster) ∧
      ∀ {α : Type} [Arithmetic α] {expected expected' output output' : Json},
        Regrouped expected expected' → Regrouped output output' →
        (Metric.clusterPrf1.score expected output : Register α) =
          Metric.clusterPrf1.score expected' output' := by
  constructor
  · intro τ _ _ _ _ clusters
    refine ⟨nodup_clusterPairs clusters, fun a b => ?_⟩
    rw [mem_clusterPairs, shareCluster_iff]
  · intro α _ expected expected' output output' gold given
    have numbers : (Metric.clusterPrf1.compare expected output : Prf α) =
        Metric.clusterPrf1.compare expected' output' :=
      clusterScore_congr given.sameTogether gold.sameTogether
    rw [Metric.score, Metric.score, numbers]

/-- The pair of the split answer alone, the other way round and with a repetition. -/
def pairAnswer : Json := .arr [.arr [.str "p", .str "q", .str "p"]]

/-- The split answer scores as its one pair does, and a repeated item makes no pair with itself. -/
theorem cluster_score_ignores_presentation_split :
    (∀ a b, (a, b) ∈ clusterPairs [[2, 1, 2], [3]] ↔
        a < b ∧ ∃ cluster ∈ [[2, 1, 2], [3]], a ∈ cluster ∧ b ∈ cluster) ∧
      (Metric.clusterPrf1.score wholeAnswer splitAnswer : Register Float) =
        Metric.clusterPrf1.score wholeAnswer pairAnswer := by
  have order : Regrouped splitAnswer (.arr [.str "x", .arr [.str "m"], .arr [.str "q", .str "p"]]) :=
    .clusters (List.reverse_perm _).symm
  have without : Regrouped (.arr [.arr [.str "q", .str "p"]])
      (.arr [.str "x", .arr [.str "m"], .arr [.str "q", .str "p"]]) :=
    .trans (.alone (by decide)) (.alone (by decide))
  have again : Regrouped (.arr [.arr [.str "q", .str "p"]]) pairAnswer :=
    @Regrouped.repetition [] [] _ _ (by decide)
  obtain ⟨pairs, scores⟩ := cluster_score_ignores_presentation
  exact ⟨(pairs [[2, 1, 2], [3]]).2,
    scores (.refl wholeAnswer) ((order.trans without.symm).trans again)⟩

end Assay
