import Assay.Proofs.Register
import Assay.Suite.Run

/-!
# Summing up the results of tasks

The names of a suite are identifiers and pairwise different, so a register of results has one entry
for each task that succeeded, in the order of the tasks. A failure leaves its task out and is
reported, or is the result itself if it is the first one and the policy is to abort.
-/

namespace Assay

namespace Suite

/-! ## Names -/

theorem of_nameFault {seen names : List String} (h : nameFault seen names = none) :
    names.Nodup ∧ (∀ name ∈ names, name ∉ seen) ∧ ∀ name ∈ names, isIdentifier name = true := by
  induction names generalizing seen with
  | nil => exact ⟨List.nodup_nil, List.forall_mem_nil _, List.forall_mem_nil _⟩
  | cons name rest ih =>
    rw [nameFault] at h
    split at h
    · cases h
    · next fresh =>
      split at h
      · next identifier =>
        obtain ⟨distinct, apart, identifiers⟩ := ih h
        have first : name ∉ seen := by simpa using fresh
        refine ⟨List.nodup_cons.mpr ⟨fun mem => apart name mem List.mem_cons_self, distinct⟩, ?_,
          List.forall_mem_cons.mpr ⟨identifier, identifiers⟩⟩
        refine List.forall_mem_cons.mpr ⟨first, ?_⟩
        intro other mem again
        exact apart other mem (List.mem_cons_of_mem name again)
      · cases h

variable (s : Suite m)

/-- No two tasks of a suite have one name. -/
theorem nodup_names : (s.tasks.map Task.name).Nodup :=
  (of_nameFault s.wellNamed).1

theorem isIdentifier_name {t : Task} (mem : t ∈ s.tasks) : isIdentifier t.name = true :=
  (of_nameFault s.wellNamed).2.2 t.name (List.mem_map_of_mem mem)

theorem selected_sublist (selection : Selection) : (s.selected selection).Sublist s.tasks :=
  List.filter_sublist

theorem nodup_selected (selection : Selection) :
    ((s.selected selection).map Task.name).Nodup :=
  s.nodup_names.sublist ((s.selected_sublist selection).map Task.name)

theorem mem_selected {selection : Selection} {t : Task} :
    t ∈ s.selected selection ↔ t ∈ s.tasks ∧ selection.includes t.name = true :=
  List.mem_filter

/-- What a smaller selection selects is what it selects of a larger one. -/
theorem selected_eq_filter {selection larger : Selection}
    (h : ∀ t ∈ s.tasks, selection.includes t.name = true → larger.includes t.name = true) :
    s.selected selection = (s.selected larger).filter fun t => selection.includes t.name := by
  rw [selected, selected, List.filter_filter]
  refine List.filter_congr ?_
  intro t mem
  cases included : selection.includes t.name with
  | false => rfl
  | true => rw [h t mem included, Bool.true_and]

/-! ## Results of tasks -/

/-- The tasks with what they came to. -/
def outcomesOf (tasks : List Task) (assignment : Task → Except Failure β) :
    List (String × Except Failure β) :=
  tasks.map fun t => (t.name, assignment t)

variable {tasks : List Task} {assignment : Task → Except Failure β}

theorem zip_eq_outcomesOf (tasks : List Task) (assignment : Task → Except Failure β) :
    (tasks.map Task.name).zip (tasks.map assignment) = outcomesOf tasks assignment := by
  rw [List.zip_map', outcomesOf]

/-- The tasks that succeed, by name and in order, with what they come to. -/
def succeeded (tasks : List Task) (assignment : Task → Except Failure β) : List (String × β) :=
  tasks.filterMap fun t => (assignment t).toOption.map fun value => (t.name, value)

/-- One report for each task that fails, in order. -/
def reports (tasks : List Task) (assignment : Task → Except Failure β) : List Event :=
  tasks.filterMap fun t =>
    match assignment t with
    | .ok _ => none
    | .error f => some (.taskFailed t.name f.message)

theorem succeeded_cons_ok {t : Task} {value : β} (h : assignment t = .ok value)
    (tasks : List Task) :
    succeeded (t :: tasks) assignment = (t.name, value) :: succeeded tasks assignment := by
  rw [succeeded, List.filterMap_cons, h]
  rfl

theorem succeeded_cons_error {t : Task} {f : Failure} (h : assignment t = .error f)
    (tasks : List Task) : succeeded (t :: tasks) assignment = succeeded tasks assignment := by
  rw [succeeded, List.filterMap_cons, h]
  rfl

theorem succeeded_names_sublist (tasks : List Task) (assignment : Task → Except Failure β) :
    ((succeeded tasks assignment).map Prod.fst).Sublist (tasks.map Task.name) := by
  induction tasks with
  | nil => exact .slnil
  | cons t tasks ih =>
    cases outcome : assignment t with
    | ok value =>
      rw [succeeded_cons_ok outcome]
      exact ih.cons_cons t.name
    | error f =>
      rw [succeeded_cons_error outcome]
      exact ih.cons t.name

/-- A task that succeeded is found by its name, and one that failed is not. -/
theorem lookup_succeeded (distinct : (tasks.map Task.name).Nodup) {t : Task} (mem : t ∈ tasks) :
    (succeeded tasks assignment).lookup t.name = (assignment t).toOption := by
  induction tasks with
  | nil => cases mem
  | cons u tasks ih =>
    rw [List.map_cons, List.nodup_cons] at distinct
    rcases List.mem_cons.mp mem with rfl | later
    · cases outcome : assignment t with
      | ok value =>
        rw [succeeded_cons_ok outcome]
        exact List.lookup_cons_self
      | error f =>
        -- no other task has the name
        rw [succeeded_cons_error outcome]
        refine List.lookup_eq_none_iff.mpr ?_
        intro p found
        have named : p.1 ∈ tasks.map Task.name :=
          (succeeded_names_sublist tasks assignment).subset (List.mem_map_of_mem found)
        rw [bne_iff_ne]
        intro same
        exact distinct.1 (same ▸ named)
    · have differ : (t.name == u.name) = false := by
        rw [beq_eq_false_iff_ne]
        intro same
        exact distinct.1 (same ▸ List.mem_map_of_mem later)
      cases outcome : assignment u with
      | ok value =>
        rw [succeeded_cons_ok outcome, List.lookup_cons, differ]
        exact ih distinct.2 later
      | error f =>
        rw [succeeded_cons_error outcome]
        exact ih distinct.2 later

/-- Of some of the tasks those succeed that succeed of all of them. -/
theorem succeeded_filter (p : String → Bool) (tasks : List Task)
    (assignment : Task → Except Failure β) :
    succeeded (tasks.filter fun t => p t.name) assignment =
      (succeeded tasks assignment).filter fun e => p e.1 := by
  induction tasks with
  | nil => rfl
  | cons t tasks ih =>
    rw [List.filter_cons]
    cases included : p t.name with
    | false =>
      rw [if_neg Bool.false_ne_true, ih]
      cases outcome : assignment t with
      | ok value =>
        rw [succeeded_cons_ok outcome, List.filter_cons_of_neg]
        simp [included]
      | error f => rw [succeeded_cons_error outcome]
    | true =>
      rw [if_pos rfl]
      cases outcome : assignment t with
      | ok value =>
        rw [succeeded_cons_ok outcome, succeeded_cons_ok outcome, List.filter_cons_of_pos, ih]
        exact included
      | error f => rw [succeeded_cons_error outcome, succeeded_cons_error outcome, ih]

/-- The register of the tasks that succeeded lists them in the order of the tasks. -/
theorem entries_successes (distinct : (tasks.map Task.name).Nodup) :
    (successes (outcomesOf tasks assignment)).entries = succeeded tasks assignment := by
  have register : successes (outcomesOf tasks assignment) =
      .ofList (succeeded tasks assignment) := by
    rw [successes, outcomesOf, List.filterMap_map]
    rfl
  rw [register]
  exact Register.entries_ofList (distinct.sublist (succeeded_names_sublist tasks assignment))

/-- To isolate failures reports each of them once, in the order of the tasks. -/
theorem map_failures_eq_reports (tasks : List Task) (assignment : Task → Except Failure β) :
    ((failures (outcomesOf tasks assignment)).map fun (name, f) =>
      Event.taskFailed name f.message) = reports tasks assignment := by
  induction tasks with
  | nil => rfl
  | cons t tasks ih =>
    simp only [outcomesOf, failures, reports, List.map_cons, List.filterMap_cons] at ih ⊢
    cases assignment t with
    | ok value => exact ih
    | error f => exact congrArg (Event.taskFailed t.name f.message :: ·) ih

theorem failures_eq_nil_iff :
    failures (outcomesOf tasks assignment) = [] ↔
      ∀ t ∈ tasks, ∃ value, assignment t = .ok value := by
  rw [failures, outcomesOf, List.filterMap_map, List.filterMap_eq_nil_iff]
  refine forall_congr' fun t => forall_congr' fun _ => ?_
  simp only [Function.comp]
  cases assignment t with
  | ok value => simp
  | error f => simp

/-- The first failure is that of the first task that fails. -/
theorem failures_of_first {front back : List Task} {t : Task} {f : Failure}
    (before : ∀ u ∈ front, ∃ value, assignment u = .ok value) (failed : assignment t = .error f) :
    ∃ rest, failures (outcomesOf (front ++ t :: back) assignment) = (t.name, f) :: rest := by
  have none := failures_eq_nil_iff.mpr before
  simp only [outcomesOf, failures] at none ⊢
  rw [List.map_append, List.filterMap_append, none, List.map_cons, List.filterMap_cons, failed]
  exact ⟨_, rfl⟩

end Suite

end Assay
