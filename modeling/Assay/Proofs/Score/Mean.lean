import Mathlib.Data.List.Sigma
import Assay.Proofs.Register
import Assay.Proofs.Score.Range

/-!
# The plain mean over instances

The average of some instances has the metrics of the first one. Main statement: in exact arithmetic
each is the sum of its values, zero where it is missing, divided by the number of instances; the
average warns once for each metric of the first instance and each place of an instance without it;
the order of the instances does not matter as long as the first one, or the set of metrics of all of
them, stays the same; and the average of two runs of instances with the same metrics is the mean of
their averages, weighted by their lengths.
-/

namespace Assay

/-! ## Metrics of an average -/

theorem map_fst_graph (f : String → β) (names : List String) :
    (names.map fun name => (name, f name)).map Prod.fst = names := by
  rw [List.map_map]
  exact List.map_id names

section
variable [Arithmetic α]

/-- The metrics of the first instance are different, so each of them has its mean in the average. -/
theorem entries_average (first : Register α) (rest : List (Register α)) :
    (macroAverage (first :: rest)).entries =
      first.names.map fun metric => (metric, meanOf (first :: rest) metric) := by
  refine Register.entries_ofList ?_
  rw [map_fst_graph]
  exact first.distinct

/-- An average has the metrics of the first instance, in their order. -/
theorem names_average (first : Register α) (rest : List (Register α)) :
    (macroAverage (first :: rest)).names = first.names := by
  rw [Register.names, entries_average, map_fst_graph]

theorem get?_average {first : Register α} {metric : String} (mem : metric ∈ first.names)
    (rest : List (Register α)) :
    (macroAverage (first :: rest)).get? metric = some (meanOf (first :: rest) metric) := by
  rw [Register.get?, entries_average]
  exact List.lookup_graph _ mem

theorem get?_average_of_notMem {first : Register α} {metric : String}
    (absent : metric ∉ first.names) (rest : List (Register α)) :
    (macroAverage (first :: rest)).get? metric = none := by
  rw [Register.get?_eq_none_iff, names_average]
  exact absent

end

/-! ## Warnings of an average -/

section
variable {results : List (Register α)} {metric : String} {event : Event}

/-- A warning names a place at which there is an instance without the metric. -/
theorem mem_missingFrom :
    event ∈ missingFrom results metric ↔ ∃ place entry, results[place]? = some entry ∧
      metric ∉ entry.names ∧ event = .metricMissing metric place := by
  rw [missingFrom, List.mem_filterMap]
  constructor
  · rintro ⟨⟨entry, place⟩, found, reported⟩
    dsimp only at reported
    split at reported
    · next missing =>
      exact ⟨place, entry, List.mk_mem_zipIdx_iff_getElem?.mp found,
        Register.get?_eq_none_iff.mp (Option.isNone_iff_eq_none.mp missing),
        (Option.some.inj reported).symm⟩
    · cases reported
  · rintro ⟨place, entry, found, absent, rfl⟩
    refine ⟨(entry, place), List.mk_mem_zipIdx_iff_getElem?.mpr found, if_pos ?_⟩
    exact Option.isNone_iff_eq_none.mpr (Register.get?_eq_none_iff.mpr absent)

/-- No place is named twice. -/
theorem nodup_missingFrom (results : List (Register α)) (metric : String) :
    (missingFrom results metric).Nodup := by
  rw [missingFrom, List.Nodup, List.pairwise_filterMap]
  have places : results.zipIdx.Pairwise fun found found' => found.2 ≠ found'.2 :=
    List.pairwise_map.mp (List.nodup_zipIdx_map_snd results)
  refine places.imp ?_
  rintro ⟨entry, place⟩ ⟨entry', place'⟩ differ event reported event' reported' same
  dsimp only at reported reported'
  split at reported
  · split at reported'
    · rw [← Option.some.inj reported, ← Option.some.inj reported'] at same
      exact differ (Event.metricMissing.inj same).2
    · cases reported'
  · cases reported

theorem mem_averageEvents {first : Register α} {rest : List (Register α)} :
    event ∈ averageEvents (first :: rest) ↔ ∃ metric ∈ first.names, ∃ place entry,
      (first :: rest)[place]? = some entry ∧ metric ∉ entry.names ∧
        event = .metricMissing metric place := by
  rw [averageEvents, List.mem_flatMap]
  exact exists_congr fun metric => and_congr_right fun _ => mem_missingFrom

/-- No warning of an average is given twice. -/
theorem nodup_averageEvents (results : List (Register α)) : (averageEvents results).Nodup := by
  cases results with
  | nil => exact List.nodup_nil
  | cons first rest =>
    rw [averageEvents, List.nodup_flatMap]
    refine ⟨fun metric _ => nodup_missingFrom _ metric, ?_⟩
    have distinct : first.names.Pairwise (· ≠ ·) := first.distinct
    refine distinct.imp fun differ event here there => ?_
    obtain ⟨_, _, -, -, rfl⟩ := mem_missingFrom.mp here
    obtain ⟨_, _, -, -, same⟩ := mem_missingFrom.mp there
    exact differ (Event.metricMissing.inj same).1

end

/-! ## Means in exact arithmetic -/

theorem meanOf_rat (results : List (Register Rat)) (metric : String) :
    meanOf results metric =
      (results.map fun entry => (entry.get? metric).getD 0).sum / results.length := by
  rw [meanOf, sumFromLeft_rat]

/-- A mean does not depend on the order of the instances. -/
theorem meanOf_perm {results others : List (Register Rat)} (h : results.Perm others)
    (metric : String) : meanOf results metric = meanOf others metric := by
  rw [meanOf_rat, meanOf_rat, (h.map _).sum_eq, h.length_eq]

/-- The mean of two runs of instances is the mean of their means, weighted by their lengths. -/
theorem meanOf_append {xs ys : List (Register Rat)} (some : xs ≠ []) (some' : ys ≠ [])
    (metric : String) :
    meanOf (xs ++ ys) metric =
      (xs.length * meanOf xs metric + ys.length * meanOf ys metric) /
        (xs.length + ys.length) := by
  have length_ne : (xs.length : Rat) ≠ 0 := by simpa using some
  have length_ne' : (ys.length : Rat) ≠ 0 := by simpa using some'
  rw [meanOf_rat, meanOf_rat, meanOf_rat, mul_div_cancel₀ _ length_ne, mul_div_cancel₀ _ length_ne',
    List.map_append, List.sum_append, List.length_append, Nat.cast_add]

/-! ## Instances with the same metrics -/

/-- All registers have the same set of names, in whatever order. -/
def SameNames (registers : List (Register β)) : Prop :=
  ∀ register ∈ registers, ∀ other ∈ registers, ∀ name, name ∈ register.names ↔ name ∈ other.names

namespace SameNames

variable {xs ys : List (Register β)}

theorem left (h : SameNames (xs ++ ys)) : SameNames xs :=
  fun register mem other mem' =>
    h register (List.mem_append_left ys mem) other (List.mem_append_left ys mem')

theorem right (h : SameNames (xs ++ ys)) : SameNames ys :=
  fun register mem other mem' =>
    h register (List.mem_append_right xs mem) other (List.mem_append_right xs mem')

/-- If all instances have the metrics of one of them, the average has just these. -/
theorem get?_average [Arithmetic α] {results : List (Register α)} (h : SameNames results)
    {entry : Register α} (mem : entry ∈ results) (metric : String) :
    (macroAverage results).get? metric =
      if metric ∈ entry.names then some (meanOf results metric) else none := by
  cases results with
  | nil => cases mem
  | cons first rest =>
    have same := h entry mem first List.mem_cons_self metric
    split
    · next present => exact Assay.get?_average (same.mp present) rest
    · next absent => exact get?_average_of_notMem (absent ∘ same.mpr) rest

end SameNames

/-- **An average is the plain mean over the metrics of the first instance.** Its metrics and its
warnings are those of any arithmetic; the means are taken in the exact one. -/
theorem macroAverage_is_plain_mean :
    (∀ {α : Type} [Arithmetic α],
        (macroAverage [] : Register α) = .empty ∧ averageEvents ([] : List (Register α)) = [] ∧
          ∀ (first : Register α) (rest : List (Register α)),
            (macroAverage (first :: rest)).names = first.names ∧
              (averageEvents (first :: rest)).Nodup ∧
              ∀ event, event ∈ averageEvents (first :: rest) ↔
                ∃ metric ∈ first.names, ∃ place entry, (first :: rest)[place]? = some entry ∧
                  metric ∉ entry.names ∧ event = .metricMissing metric place) ∧
      (∀ (first : Register Rat) (rest : List (Register Rat)), ∀ metric ∈ first.names,
        (macroAverage (first :: rest)).get? metric =
          some (((first :: rest).map fun entry => (entry.get? metric).getD 0).sum /
            ((first :: rest).length : Rat))) ∧
      (∀ (first : Register Rat) {rest others : List (Register Rat)}, rest.Perm others →
        macroAverage (first :: rest) = macroAverage (first :: others)) ∧
      (∀ {results others : List (Register Rat)}, results.Perm others → SameNames results →
        ∀ metric, (macroAverage results).get? metric = (macroAverage others).get? metric) ∧
      ∀ {xs ys : List (Register Rat)}, xs ≠ [] → ys ≠ [] → SameNames (xs ++ ys) →
        ∀ metric, (macroAverage (xs ++ ys)).get? metric =
          Option.map₂ (fun mean mean' =>
              (xs.length * mean + ys.length * mean') / (xs.length + ys.length : Rat))
            ((macroAverage xs).get? metric) ((macroAverage ys).get? metric) := by
  refine ⟨?_, ?_, ?_, ?_, ?_⟩
  · intro α _
    refine ⟨rfl, rfl, fun first rest => ?_⟩
    exact ⟨names_average first rest, nodup_averageEvents _, fun event => mem_averageEvents⟩
  · intro first rest metric mem
    rw [get?_average mem rest, meanOf_rat]
  · intro first rest others h
    refine Register.ext ?_
    rw [entries_average, entries_average]
    refine List.map_congr_left fun metric _ => ?_
    rw [meanOf_perm (h.cons first)]
  · intro results others h same metric
    cases results with
    | nil => rw [List.nil_perm.mp h]
    | cons first rest =>
      have first_mem : first ∈ first :: rest := List.mem_cons_self
      have same' : SameNames others := fun register mem other mem' =>
        same register (h.mem_iff.mpr mem) other (h.mem_iff.mpr mem')
      rw [same.get?_average first_mem, same'.get?_average (h.mem_iff.mp first_mem), meanOf_perm h]
  · intro xs ys some some' same metric
    obtain ⟨entry, mem⟩ := List.exists_mem_of_ne_nil xs some
    obtain ⟨entry', mem'⟩ := List.exists_mem_of_ne_nil ys some'
    have names := same entry (List.mem_append_left ys mem) entry' (List.mem_append_right xs mem')
    rw [same.get?_average (List.mem_append_left ys mem), same.left.get?_average mem,
      same.right.get?_average mem', meanOf_append some some']
    by_cases present : metric ∈ entry.names
    · rw [if_pos present, if_pos present, if_pos ((names metric).mp present)]
      rfl
    · rw [if_neg present, if_neg present, if_neg (present ∘ (names metric).mpr)]
      rfl

/-- An instance with both metrics. -/
def firstInstance : Register Rat := .ofList [("a", 1), ("b", 0)]

/-- An instance with the same metrics, put in the other way round. -/
def turnedInstance : Register Rat := .ofList [("b", 1), ("a", 1 / 2)]

/-- An instance that lacks the metric `b` and has one that the others lack. -/
def foreignInstance : Register Rat := .ofList [("a", 0), ("c", 1)]

/-- A missing metric counts as zero, with a warning, and a foreign one does not count; the average
of two runs of instances of different lengths is weighted. -/
theorem macroAverage_is_plain_mean_foreign :
    .metricMissing "b" 2 ∈ averageEvents [firstInstance, turnedInstance, foreignInstance] ∧
      (macroAverage [firstInstance, turnedInstance, foreignInstance]).get? "b" = some (1 / 3) ∧
      macroAverage [firstInstance, turnedInstance, foreignInstance] =
        macroAverage [firstInstance, foreignInstance, turnedInstance] ∧
      (macroAverage [firstInstance, turnedInstance]).get? "a" =
        (macroAverage [turnedInstance, firstInstance]).get? "a" ∧
      (macroAverage ([firstInstance] ++ [turnedInstance, turnedInstance])).get? "a" =
        some (2 / 3) := by
  obtain ⟨warned, mean, later, all, weighted⟩ := macroAverage_is_plain_mean
  have names : firstInstance.names = ["a", "b"] := rfl
  have turned : turnedInstance.names = ["b", "a"] := rfl
  have foreign : foreignInstance.names = ["a", "c"] := rfl
  have same : SameNames ([firstInstance] ++ [turnedInstance, turnedInstance]) := by
    have each : ∀ entry ∈ [firstInstance, turnedInstance, turnedInstance],
        ∀ name, name ∈ entry.names ↔ name = "a" ∨ name = "b" := by
      simp [names, turned, or_comm]
    exact fun entry mem other mem' name => (each entry mem name).trans (each other mem' name).symm
  refine ⟨?_, ?_, later firstInstance (.swap _ _ []), ?_, ?_⟩
  · refine (warned.2.2 firstInstance [turnedInstance, foreignInstance]).2.2 _ |>.mpr ?_
    exact ⟨"b", by simp [names], 2, foreignInstance, rfl, by simp [foreign], rfl⟩
  · have value : foreignInstance.get? "b" = none :=
      Register.get?_eq_none_iff.mpr (by simp [foreign])
    have value' : firstInstance.get? "b" = some 0 := rfl
    have value'' : turnedInstance.get? "b" = some 1 := rfl
    rw [mean firstInstance _ "b" (by simp [names])]
    norm_num [value, value', value'']
  · have pair : SameNames [firstInstance, turnedInstance] :=
      @SameNames.left _ _ [turnedInstance] same
    exact all (.swap _ _ []) pair "a"
  · have value : firstInstance.get? "a" = some 1 := rfl
    have value' : turnedInstance.get? "a" = some (1 / 2) := rfl
    rw [weighted (List.cons_ne_nil _ _) (List.cons_ne_nil _ _) same,
      mean firstInstance [] "a" (by simp [names]),
      mean turnedInstance [turnedInstance] "a" (by simp [turned])]
    norm_num [value, value', Option.map₂]

end Assay
