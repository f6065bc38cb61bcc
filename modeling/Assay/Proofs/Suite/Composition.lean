import Assay.Proofs.Suite.Results
import Mathlib.Data.List.Nodup

/-!
# Which parts make a suite

A suite needs a model, a directory for its output, and tasks that are well named: their names are
identifiers and pairwise different. A name at an index of a list is at fault if it has occurred
before or is no identifier (`FaultAt`). Main statement: parts make a suite just when nothing is
missing and no name is at fault, and otherwise the fault with the least index is reported, as a
repetition if the name has occurred before. So what is reported as repeated is an identifier.
-/

namespace Assay.Suite

/-! ## Identifiers -/

/-- The letters of ASCII and the underscore. -/
def IsLetter (c : Char) : Prop :=
  ('A' ≤ c ∧ c ≤ 'Z') ∨ ('a' ≤ c ∧ c ≤ 'z') ∨ c = '_'

/-- A letter or an underscore, then letters, underscores and digits, and nothing else. -/
def IsIdentifier (name : String) : Prop :=
  ∃ first rest, name.toList = first :: rest ∧ IsLetter first ∧
    ∀ c ∈ rest, IsLetter c ∨ ('0' ≤ c ∧ c ≤ '9')

theorem beginsIdentifier_iff {c : Char} : beginsIdentifier c = true ↔ IsLetter c := by
  have letters : beginsIdentifier c = (decide ('A' ≤ c ∧ c ≤ 'Z') ||
      (decide ('a' ≤ c) && decide (c ≤ 'z')) || c == '_') := rfl
  simp only [letters, Bool.or_eq_true, Bool.and_eq_true, decide_eq_true_eq, beq_iff_eq, or_assoc,
    IsLetter]

theorem inIdentifier_iff {c : Char} :
    inIdentifier c = true ↔ IsLetter c ∨ ('0' ≤ c ∧ c ≤ '9') := by
  rw [inIdentifier, Bool.or_eq_true, beginsIdentifier_iff, Decimal.isDigit, decide_eq_true_eq]

theorem isIdentifier_iff {name : String} : isIdentifier name = true ↔ IsIdentifier name := by
  unfold isIdentifier IsIdentifier
  cases name.toList with
  | nil => simp
  | cons first rest =>
    simp only [Bool.and_eq_true, List.all_eq_true, beginsIdentifier_iff, inIdentifier_iff]
    constructor
    · rintro ⟨begins, all⟩
      exact ⟨first, rest, rfl, begins, all⟩
    · rintro ⟨first', rest', same, begins, all⟩
      obtain ⟨rfl, rfl⟩ := List.cons.inj same
      exact ⟨begins, all⟩

/-! ## Faults of names -/

/-- The name at an index has occurred before, or it is no identifier. -/
def FaultAt (names : List String) (index : Nat) : Prop :=
  ∃ name, names[index]? = some name ∧ (name ∈ names.take index ∨ ¬ IsIdentifier name)

/-- Names have no fault when they are pairwise different identifiers that were not there before. -/
theorem nameFault_eq_none_iff {seen names : List String} :
    nameFault seen names = none ↔
      names.Nodup ∧ (∀ name ∈ names, name ∉ seen) ∧ ∀ name ∈ names, isIdentifier name = true := by
  refine ⟨of_nameFault, ?_⟩
  induction names generalizing seen with
  | nil => exact fun _ => rfl
  | cons name rest ih =>
    rintro ⟨distinct, apart, identifiers⟩
    obtain ⟨fresh, distinct⟩ := List.nodup_cons.mp distinct
    obtain ⟨first, apart⟩ := List.forall_mem_cons.mp apart
    obtain ⟨identifier, identifiers⟩ := List.forall_mem_cons.mp identifiers
    rw [nameFault, if_neg (by simpa using first), if_pos identifier]
    refine ih ⟨distinct, ?_, identifiers⟩
    intro other mem again
    rcases List.mem_cons.mp again with rfl | again
    · exact fresh mem
    · exact apart other mem again

/-- The fault of names is that of a name before which there is none. -/
theorem nameFault_eq_some {seen names : List String} {e : ConfigError}
    (h : nameFault seen names = some e) :
    ∃ front name back, names = front ++ name :: back ∧ nameFault seen front = none ∧
      ((name ∈ seen ∨ name ∈ front) ∧ e = .duplicateTask name ∨
        ¬ (name ∈ seen ∨ name ∈ front) ∧ isIdentifier name = false ∧
          e = .invalidTaskName name) := by
  induction names generalizing seen with
  | nil => cases h
  | cons name rest ih =>
    rw [nameFault] at h
    split at h
    · next again =>
      have there : name ∈ seen := by simpa using again
      exact ⟨[], name, rest, rfl, rfl, .inl ⟨.inl there, (Option.some.inj h).symm⟩⟩
    · next fresh =>
      have first : name ∉ seen := by simpa using fresh
      split at h
      · next identifier =>
        obtain ⟨front, other, back, rfl, before, blame⟩ := ih h
        -- a name that passes is one of those that are there before the others
        refine ⟨name :: front, other, back, rfl, ?_, ?_⟩
        · rw [nameFault, if_neg fresh, if_pos identifier]
          exact before
        · have there : other ∈ name :: seen ∨ other ∈ front ↔
              other ∈ seen ∨ other ∈ name :: front := by
            simp only [List.mem_cons]
            tauto
          rwa [there] at blame
      · next odd =>
        have nowhere : ¬ (name ∈ seen ∨ name ∈ []) := by simpa using first
        exact ⟨[], name, rest, rfl, rfl,
          .inr ⟨nowhere, by simpa using odd, (Option.some.inj h).symm⟩⟩

/-- Names that are well named have no fault at any index. -/
theorem not_faultAt {front : List String} (clean : nameFault [] front = none) (back : List String)
    {index : Nat} (inside : index < front.length) : ¬ FaultAt (front ++ back) index := by
  obtain ⟨distinct, -, identifiers⟩ := nameFault_eq_none_iff.mp clean
  rintro ⟨name, found, fault⟩
  rw [List.getElem?_append_left inside] at found
  rw [List.take_append_of_le_length (Nat.le_of_lt inside)] at fault
  have mem := List.mem_of_getElem? found
  rcases fault with again | odd
  · -- the name would stand at two indices of different names
    obtain ⟨other, before, same⟩ := List.mem_take_iff_getElem.mp again
    obtain ⟨_, same'⟩ := List.getElem?_eq_some_iff.mp found
    have equal := (List.Nodup.getElem_inj_iff distinct).mp (same.trans same'.symm)
    omega
  · exact odd (isIdentifier_iff.mp (identifiers name mem))

/-- The fault of names is that at the least index with a fault. -/
theorem faultAt_of_nameFault {names : List String} {e : ConfigError}
    (h : nameFault [] names = some e) :
    ∃ index name, names[index]? = some name ∧ FaultAt names index ∧
      (∀ before < index, ¬ FaultAt names before) ∧
      (e = .duplicateTask name ∧ name ∈ names.take index ∧ IsIdentifier name ∨
        e = .invalidTaskName name ∧ name ∉ names.take index ∧ ¬ IsIdentifier name) := by
  obtain ⟨front, name, back, rfl, clean, blame⟩ := nameFault_eq_some h
  have found : (front ++ name :: back)[front.length]? = some name := by simp
  have before : (front ++ name :: back).take front.length = front := by simp
  have least : ∀ index < front.length, ¬ FaultAt (front ++ name :: back) index :=
    fun _ inside => not_faultAt clean _ inside
  refine ⟨front.length, name, found, ⟨name, found, ?_⟩, least, ?_⟩ <;> rw [before]
  · rcases blame with ⟨again, -⟩ | ⟨-, odd, -⟩
    · exact .inl (by simpa using again)
    · rw [← isIdentifier_iff, odd]
      exact .inr (by decide)
  · rcases blame with ⟨again, rfl⟩ | ⟨fresh, odd, rfl⟩
    · have there : name ∈ front := by simpa using again
      have identifier := (nameFault_eq_none_iff.mp clean).2.2 name there
      exact .inl ⟨rfl, there, isIdentifier_iff.mp identifier⟩
    · rw [← isIdentifier_iff, odd]
      exact .inr ⟨rfl, by simpa using fresh, by decide⟩

/-! ## Building -/

variable {m : Type → Type} {parts : Parts m} {model : Model m} {output : String}

/-- With a model and an output directory, the names of the tasks decide. -/
theorem build_cases (given : parts.model = some model)
    (placed : parts.output = some output) :
    (nameFault [] (parts.tasks.map Task.name) = none ∧ ∃ s, build parts = .ok s ∧
        s.model = model ∧ s.tasks = parts.tasks ∧ s.output = output ∧ s.policy = parts.policy) ∨
      ∃ e, nameFault [] (parts.tasks.map Task.name) = some e ∧ build parts = .error e := by
  unfold build
  rw [given, placed]
  dsimp only
  split
  · next e fault => exact .inr ⟨e, fault, rfl⟩
  · next clean => exact .inl ⟨clean, _, rfl, rfl, rfl, rfl, rfl⟩

/-- **Which parts make a suite, and what is reported of others.** A missing model is reported
first, then a missing output directory, whatever the names of the tasks. With both the parts make a
suite, of just these tasks in this order, if and only if the names are identifiers and pairwise
different. Otherwise the name at the least index with a fault is reported: as repeated if it has
occurred before, when it is an identifier, and else as no identifier. -/
theorem build_judges_names (parts : Parts m) :
    (parts.model = none → build parts = .error (.missingField "model")) ∧
    (parts.model ≠ none → parts.output = none →
      build parts = .error (.missingField "output_dir")) ∧
    ∀ model output, parts.model = some model → parts.output = some output →
      ((∃ s, build parts = .ok s) ↔
        (∀ t ∈ parts.tasks, IsIdentifier t.name) ∧ (parts.tasks.map Task.name).Nodup) ∧
      (∀ s, build parts = .ok s → s.tasks = parts.tasks ∧ s.model = model ∧ s.output = output ∧
        s.policy = parts.policy) ∧
      ∀ e, build parts = .error e →
        ∃ index t, parts.tasks[index]? = some t ∧
          FaultAt (parts.tasks.map Task.name) index ∧
          (∀ before < index, ¬ FaultAt (parts.tasks.map Task.name) before) ∧
          (e = .duplicateTask t.name ∧ t.name ∈ (parts.tasks.take index).map Task.name ∧
              IsIdentifier t.name ∨
            e = .invalidTaskName t.name ∧ t.name ∉ (parts.tasks.take index).map Task.name ∧
              ¬ IsIdentifier t.name) := by
  refine ⟨?_, ?_, ?_⟩
  · intro missing
    unfold build
    rw [missing]
  · intro present missing
    obtain ⟨model, given⟩ := Option.ne_none_iff_exists'.mp present
    unfold build
    rw [given, missing]
  · intro model output given placed
    have wellNamed : nameFault [] (parts.tasks.map Task.name) = none ↔
        (∀ t ∈ parts.tasks, IsIdentifier t.name) ∧ (parts.tasks.map Task.name).Nodup := by
      simp [nameFault_eq_none_iff, isIdentifier_iff, and_comm]
    rw [← wellNamed]
    rcases build_cases given placed with
      ⟨clean, s, built, sameModel, sameTasks, sameOutput, samePolicy⟩ | ⟨e, fault, failed⟩
    · refine ⟨iff_of_true ⟨s, built⟩ clean, ?_, ?_⟩
      · intro s' built'
        obtain rfl := Except.ok.inj (built.symm.trans built')
        exact ⟨sameTasks, sameModel, sameOutput, samePolicy⟩
      · intro e failed
        cases built.symm.trans failed
    · refine ⟨iff_of_false ?_ (by rw [fault]; simp), ?_, ?_⟩
      · rintro ⟨s, built⟩
        cases built.symm.trans failed
      · intro s built
        cases built.symm.trans failed
      · intro e' failed'
        obtain rfl := Except.error.inj (failed.symm.trans failed')
        obtain ⟨index, name, found, least, before, blame⟩ := faultAt_of_nameFault fault
        rw [List.getElem?_map, Option.map_eq_some_iff] at found
        obtain ⟨t, there, rfl⟩ := found
        rw [← List.map_take] at blame
        exact ⟨index, t, there, least, before, blame⟩

/-- A task that has only a name. -/
def bareTask (name : String) : Task :=
  ⟨⟨name, "", .perFile, [], .c, "", .prf1, none, "*.c", "answers"⟩, [], none⟩

/-- Tasks of which the third has the name of the first, and the last has a name that begins with a
digit. -/
def mixedParts : Parts Id :=
  ⟨some Model.null, ["alias", "escape", "alias", "2nd"].map bareTask, some "out", .abort⟩

/-- The repeated name is reported, and not the last one, which comes later. -/
theorem build_judges_names_mixed :
    mixedParts.model = some Model.null ∧ mixedParts.output = some "out" ∧
      build mixedParts = .error (.duplicateTask "alias") ∧ IsIdentifier "alias" := by
  have failed : build mixedParts = .error (.duplicateTask "alias") := rfl
  obtain ⟨-, -, judged⟩ := build_judges_names mixedParts
  obtain ⟨-, -, blamed⟩ := judged Model.null "out" rfl rfl
  obtain ⟨index, t, -, -, -, ⟨same, -, identifier⟩ | ⟨other, -⟩⟩ := blamed _ failed
  · have named : "alias" = t.name := by simpa using same
    exact ⟨rfl, rfl, failed, named ▸ identifier⟩
  · cases other

end Assay.Suite
