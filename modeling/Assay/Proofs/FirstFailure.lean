import Mathlib.Data.List.Forall2

/-!
# All results or the first failure

Of the elements of a list that lack a property one is the first. Going through a list up to the
first failure gives all results, if there is no failure, and else the failure of the first element
that fails.
-/

namespace Assay

theorem mapError_eq_ok {change : ε → ε'} {outcome : Except ε α} {a : α} :
    outcome.mapError change = .ok a ↔ outcome = .ok a := by
  cases outcome <;> simp [Except.mapError]

theorem bind_eq_ok {outcome : Except ε α} {next : α → Except ε β} {b : β} :
    (outcome >>= next) = .ok b ↔ ∃ a, outcome = .ok a ∧ next a = .ok b := by
  cases outcome <;> simp [Bind.bind, Except.bind]

theorem isOk_iff_exists {outcome : Except ε α} : outcome.isOk = true ↔ ∃ a, outcome = .ok a := by
  cases outcome <;> simp [Except.isOk, Except.toBool]

theorem eq_ok_of_toOption {outcome : Except ε α} {a : α} (h : outcome.toOption = some a) :
    outcome = .ok a := by
  cases outcome with
  | error e => cases h
  | ok b => exact congrArg _ (Option.some.inj h)

theorem exists_first {P : γ → Prop} {l : List γ} (h : ¬ ∀ a ∈ l, P a) :
    ∃ front a back, l = front ++ a :: back ∧ (∀ b ∈ front, P b) ∧ ¬ P a := by
  induction l with
  | nil => exact absurd (List.forall_mem_nil _) h
  | cons a l ih =>
    by_cases first : P a
    · have later : ¬ ∀ b ∈ l, P b := by
        intro all
        exact h (List.forall_mem_cons.mpr ⟨first, all⟩)
      obtain ⟨front, b, back, split, before, lacks⟩ := ih later
      refine ⟨a :: front, b, back, ?_, List.forall_mem_cons.mpr ⟨first, before⟩, lacks⟩
      rw [split, List.cons_append]
    · exact ⟨[], a, l, rfl, List.forall_mem_nil _, first⟩

theorem mapM_eq_ok {f : γ → Except ε β} {g : γ → β} {l : List γ} (h : ∀ a ∈ l, f a = .ok (g a)) :
    l.mapM f = .ok (l.map g) := by
  induction l with
  | nil => rfl
  | cons a l ih =>
    rw [List.mapM_cons, h a List.mem_cons_self, ih fun b mem => h b (List.mem_cons_of_mem a mem)]
    rfl

/-- All elements of a list have a result just when each of them has one. -/
theorem exists_forall₂_iff {R : γ → β → Prop} {l : List γ} :
    (∃ results, List.Forall₂ R l results) ↔ ∀ a ∈ l, ∃ result, R a result := by
  induction l with
  | nil => exact ⟨fun _ => List.forall_mem_nil _, fun _ => ⟨[], .nil⟩⟩
  | cons a l ih =>
    rw [List.forall_mem_cons, ← ih]
    constructor
    · rintro ⟨results, each⟩
      cases each with
      | cons first others => exact ⟨⟨_, first⟩, _, others⟩
    · rintro ⟨⟨result, first⟩, results, others⟩
      exact ⟨result :: results, .cons first others⟩

theorem exists_of_mem_results {R : γ → β → Prop} {l : List γ} {results : List β} {result : β}
    (h : List.Forall₂ R l results) (mem : result ∈ results) : ∃ a ∈ l, R a result := by
  induction h with
  | nil => cases mem
  | cons first others ih =>
    rcases List.mem_cons.mp mem with rfl | mem
    · exact ⟨_, List.mem_cons_self, first⟩
    · obtain ⟨a, later, related⟩ := ih mem
      exact ⟨a, List.mem_cons_of_mem _ later, related⟩

/-- Results of one list belong to one another by the elements that they are results of. -/
theorem forall₂_of_common {R : γ → α → Prop} {S : γ → β → Prop} {l : List γ} {as : List α}
    {bs : List β} (first : List.Forall₂ R l as) (second : List.Forall₂ S l bs) :
    List.Forall₂ (fun a b => ∃ c, R c a ∧ S c b) as bs := by
  induction first generalizing bs with
  | nil =>
    cases second
    exact .nil
  | cons related _ ih =>
    cases second with
    | cons related' others => exact .cons ⟨_, related, related'⟩ (ih others)

theorem exists_getElem?_of_forall₂ {R : γ → β → Prop} {l : List γ} {results : List β} {place : Nat}
    {a : γ} (h : List.Forall₂ R l results) (found : l[place]? = some a) :
    ∃ result, results[place]? = some result ∧ R a result := by
  obtain ⟨inside, rfl⟩ := List.getElem?_eq_some_iff.mp found
  have inside' : place < results.length := h.length_eq ▸ inside
  exact ⟨_, List.getElem?_eq_getElem inside', h.get inside inside'⟩

theorem mapM_eq_ok_iff {f : γ → Except ε β} {l : List γ} {results : List β} :
    l.mapM f = .ok results ↔ List.Forall₂ (fun a result => f a = .ok result) l results := by
  induction l generalizing results with
  | nil =>
    rw [List.forall₂_nil_left_iff]
    constructor
    · intro h
      exact (Except.ok.inj h).symm
    · rintro rfl
      rfl
  | cons a l ih =>
    rw [List.mapM_cons, List.forall₂_cons_left_iff]
    constructor
    · intro h
      cases first : f a with
      | error e => rw [first] at h; cases h
      | ok result =>
        cases others : l.mapM f with
        | error e => rw [first, others] at h; cases h
        | ok rest =>
          rw [first, others] at h
          exact ⟨result, rest, rfl, ih.mp others, (Except.ok.inj h).symm⟩
    · rintro ⟨result, rest, first, others, rfl⟩
      rw [first, ih.mpr others]
      rfl

/-- Going through a list fails just when one element is the first to fail, and fails as it does. -/
theorem mapM_eq_error_iff {f : γ → Except ε β} {l : List γ} {e : ε} :
    l.mapM f = .error e ↔ ∃ front a back, l = front ++ a :: back ∧
      (∀ b ∈ front, ∃ result, f b = .ok result) ∧ f a = .error e := by
  constructor
  · intro failed
    have fails : ¬ ∀ a ∈ l, ∃ result, f a = .ok result := by
      intro all
      obtain ⟨results, each⟩ := exists_forall₂_iff.mpr all
      rw [mapM_eq_ok_iff.mpr each] at failed
      cases failed
    obtain ⟨front, a, back, rfl, before, lacks⟩ := exists_first fails
    refine ⟨front, a, back, rfl, before, ?_⟩
    cases outcome : f a with
    | ok result => exact absurd ⟨result, outcome⟩ lacks
    | error e' =>
      obtain ⟨results, each⟩ := exists_forall₂_iff.mpr before
      rw [List.mapM_append, mapM_eq_ok_iff.mpr each, List.mapM_cons, outcome] at failed
      have same : (Except.error e' : Except ε (List β)) = .error e := failed
      rw [Except.error.inj same]
  · rintro ⟨front, a, back, rfl, before, failed⟩
    obtain ⟨results, each⟩ := exists_forall₂_iff.mpr before
    rw [List.mapM_append, mapM_eq_ok_iff.mpr each, List.mapM_cons, failed]
    rfl

theorem mapM_eq_error {f : γ → Except ε β} {l : List γ} (place : Nat) {a : γ} {e : ε}
    (found : l[place]? = some a) (failed : f a = .error e)
    (before : ∀ i < place, ∀ b, l[i]? = some b → ∃ result, f b = .ok result) :
    l.mapM f = .error e := by
  obtain ⟨inside, rfl⟩ := List.getElem?_eq_some_iff.mp found
  refine mapM_eq_error_iff.mpr ⟨l.take place, l[place], l.drop (place + 1), ?_, ?_, failed⟩
  · rw [← List.drop_eq_getElem_cons inside, List.take_append_drop]
  · intro b mem
    obtain ⟨i, at_⟩ := List.mem_iff_getElem?.mp mem
    rw [List.getElem?_take] at at_
    split at at_
    · next lt => exact before i lt b at_
    · cases at_

end Assay
