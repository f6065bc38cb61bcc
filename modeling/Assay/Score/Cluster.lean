import Assay.Score.Overlap

/-!
# Clusterings compared by their pairs

A clustering puts items together. Two clusterings are compared through the unordered pairs of
different items that share a cluster, each written with the smaller item first.
-/

namespace Assay

/-- Two different items, the smaller first. -/
def orderedPair [LT τ] [DecidableLT τ] (a b : τ) : Option (τ × τ) :=
  if a < b then some (a, b) else if b < a then some (b, a) else none

/-- The pairs of different items of one cluster. -/
def pairsWithin [LT τ] [DecidableLT τ] : List τ → List (τ × τ)
  | [] => []
  | item :: rest => rest.filterMap (orderedPair item) ++ pairsWithin rest

/-- Whether a cluster holds both items of a pair. -/
def shareCluster [DecidableEq τ] (clusters : List (List τ)) (pair : τ × τ) : Bool :=
  clusters.any fun cluster => decide (pair.1 ∈ cluster) && decide (pair.2 ∈ cluster)

/-- The pairs of different items that share a cluster, each pair once: a cluster contributes the
pairs that no later cluster holds. -/
def clusterPairs [LT τ] [DecidableLT τ] [DecidableEq τ] : List (List τ) → List (τ × τ)
  | [] => []
  | cluster :: rest =>
    (pairsWithin cluster.eraseDups).filter (fun pair => !shareCluster rest pair) ++
      clusterPairs rest

/-- Compares two clusterings by the overlap of their pairs. The items of a pair are different, so
it is a pair of another clustering exactly if they share a cluster there. -/
def clusterScore [Arithmetic α] [LT τ] [DecidableLT τ] [DecidableEq τ]
    (predicted actual : List (List τ)) : Prf α :=
  let pairs := clusterPairs predicted
  .ofCounts (pairs.countP (shareCluster actual)) pairs.length (clusterPairs actual).length

end Assay
