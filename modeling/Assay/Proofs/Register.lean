import Assay.Register
import Assay.Proofs.Mentions

/-!
# Registers of pairs

A register that is made of pairs has each of their names once, at its first mention, with the value
that was put there last. If no name is repeated it has just the pairs, in their order.
-/

namespace Assay

namespace Register

theorem putEntry_of_notMem {name : String} {value : β} {entries : List (String × β)}
    (h : name ∉ entries.map Prod.fst) :
    putEntry name value entries = entries ++ [(name, value)] := by
  induction entries with
  | nil => rfl
  | cons entry rest ih =>
    obtain ⟨key, old⟩ := entry
    simp only [List.map_cons, List.mem_cons, not_or] at h
    rw [putEntry, if_neg (fun same => h.1 same.symm), ih h.2]
    rfl

/-- A register of pairs with different names has just these pairs, in their order. -/
theorem entries_ofList {pairs : List (String × β)} (distinct : (pairs.map Prod.fst).Nodup) :
    (ofList pairs).entries = pairs := by
  -- the induction is on the pairs that are still to come, for whatever was put in before them
  have general : ∀ (r : Register β) (rest : List (String × β)),
      ((r.entries ++ rest).map Prod.fst).Nodup →
        (rest.foldl (fun r p => r.insert p.1 p.2) r).entries = r.entries ++ rest := by
    intro r rest distinct
    induction rest generalizing r with
    | nil => exact (List.append_nil _).symm
    | cons p rest ih =>
      have absent : p.1 ∉ r.entries.map Prod.fst := by
        rw [List.map_append, List.nodup_append] at distinct
        intro mem
        exact distinct.2.2 _ mem _ (List.mem_cons_self) rfl
      have put : (r.insert p.1 p.2).entries = r.entries ++ [p] := putEntry_of_notMem absent
      have together : r.entries ++ p :: rest = (r.insert p.1 p.2).entries ++ rest := by
        rw [put, List.append_assoc, List.singleton_append]
      rw [together] at distinct ⊢
      exact ih _ distinct
  exact general empty pairs distinct

theorem ofList_concat (pairs : List (String × β)) (p : String × β) :
    ofList (pairs ++ [p]) = (ofList pairs).insert p.1 p.2 := by
  rw [ofList, List.foldl_append]
  rfl

/-- The names of a register of pairs are those of the pairs, each at its first mention. -/
theorem names_ofList (pairs : List (String × β)) :
    (ofList pairs).names = (pairs.map Prod.fst).eraseDups := by
  induction pairs using List.reverseRecOn with
  | nil => rfl
  | append_singleton pairs p ih =>
    rw [ofList_concat, names_insert, ih, List.map_append, List.map_singleton, eraseDups_concat]

/-- Under a name is the value that was put there last. -/
theorem get?_ofList (pairs : List (String × β)) (name : String) :
    (ofList pairs).get? name = pairs.reverse.lookup name := by
  induction pairs using List.reverseRecOn with
  | nil => rfl
  | append_singleton pairs p ih =>
    rw [ofList_concat, get?_insert, ih, List.reverse_concat, List.lookup_cons]
    by_cases same : name = p.1
    · rw [if_pos same, beq_iff_eq.mpr same]
    · rw [if_neg same, beq_eq_false_iff_ne.mpr same]

/-- To map the values of pairs maps what is found under a name. -/
theorem lookup_map (f : β → γ) (pairs : List (String × β)) (name : String) :
    (pairs.map fun p => (p.1, f p.2)).lookup name = (pairs.lookup name).map f := by
  induction pairs with
  | nil => rfl
  | cons p pairs ih =>
    rw [List.map_cons, List.lookup_cons, List.lookup_cons, ih]
    cases name == p.1 with
    | true => rfl
    | false => rfl

/-- Nothing is found under what is no name of some pairs, and only there. -/
theorem lookup_eq_none_iff {pairs : List (String × β)} {name : String} :
    pairs.lookup name = none ↔ name ∉ pairs.map Prod.fst := by
  rw [List.lookup_eq_none_iff, List.mem_map, not_exists]
  simp only [bne_iff_ne, ne_eq, not_and]
  exact ⟨fun apart p mem same => apart p mem same.symm,
    fun apart p mem same => apart p mem same.symm⟩

/-- Under a name that no two pairs share is the value of the pair with this name. -/
theorem lookup_eq_some_iff {pairs : List (String × β)} {name : String} {value : β}
    (single : pairs.Pairwise fun p q => p.1 = q.1 → p.1 ≠ name) :
    pairs.lookup name = some value ↔ (name, value) ∈ pairs := by
  induction pairs with
  | nil => simp
  | cons p pairs ih =>
    obtain ⟨other, first⟩ := p
    obtain ⟨apart, single⟩ := List.pairwise_cons.mp single
    by_cases same : name = other
    · subst same
      have absent : (name, value) ∉ pairs := fun mem => apart _ mem rfl rfl
      simp [absent, eq_comm]
    · have differs : (name == other) = false := by simpa using same
      rw [List.lookup_cons, differs, List.mem_cons, ih single]
      simp [same]

theorem get?_eq_none_iff {r : Register β} {name : String} :
    r.get? name = none ↔ name ∉ r.names :=
  lookup_eq_none_iff

/-- A pair is an entry when its value is found under its name. -/
theorem mem_entries_iff {r : Register β} {name : String} {value : β} :
    (name, value) ∈ r.entries ↔ r.get? name = some value := by
  have single : r.entries.Pairwise fun e e' => e.1 = e'.1 → e.1 ≠ name := by
    apply (List.pairwise_map.mp r.distinct).imp
    intro e e' apart same
    exact absurd same apart
  exact (lookup_eq_some_iff single).symm

end Register

end Assay
