import Assay.Proofs.Json.Tree
import Mathlib.Data.List.Nodup

/-!
# Members of objects

Adding members one by one keeps them in ascending order of their names. Members that ascend already
stay as they are, and members of different names are only put into another order. `stored` is a
document as the reader keeps it, with the members of every object in that order.
-/

namespace Assay.Json

/-- Members in ascending order of their names, no name twice. -/
def Ascending (members : List (String × Json)) : Prop :=
  members.Pairwise fun a b => a.1 < b.1

theorem Ascending.nodup {members : List (String × Json)} (h : Ascending members) :
    (members.map Prod.fst).Nodup := by
  rw [List.nodup_iff_pairwise_ne, List.pairwise_map]
  refine h.imp ?_
  intro a b less same
  rw [same] at less
  exact String.lt_irrefl _ less

/-! ## Adding a member -/

section
variable {name : String} {value : Json} {sorted members : List (String × Json)}

/-- A member whose name comes after all others goes to the end. -/
theorem insertMember_of_last (last : ∀ m ∈ sorted, m.1 < name) :
    insertMember name value sorted = sorted ++ [(name, value)] := by
  induction sorted with
  | nil => rfl
  | cons m rest ih =>
    obtain ⟨key, old⟩ := m
    obtain ⟨less, others⟩ := List.forall_mem_cons.mp last
    have different : name ≠ key := by
      rintro rfl
      exact String.lt_irrefl _ less
    rw [insertMember, if_neg (String.lt_asymm less), if_neg different, ih others, List.cons_append]

/-- A new name is added, and the other members stay. -/
theorem insertMember_perm (new : ∀ m ∈ sorted, m.1 ≠ name) :
    (insertMember name value sorted).Perm ((name, value) :: sorted) := by
  induction sorted with
  | nil => exact .refl _
  | cons m rest ih =>
    obtain ⟨key, old⟩ := m
    obtain ⟨different, others⟩ := List.forall_mem_cons.mp new
    rw [insertMember]
    split
    · exact .refl _
    · rw [if_neg different.symm]
      exact ((ih others).cons _).trans (.swap _ _ rest)

theorem name_mem_insertMember {m : String × Json} (mem : m ∈ insertMember name value sorted) :
    m.1 = name ∨ ∃ n ∈ sorted, n.1 = m.1 := by
  induction sorted with
  | nil =>
    rw [insertMember, List.mem_singleton] at mem
    exact .inl (congrArg Prod.fst mem)
  | cons n rest ih =>
    obtain ⟨key, old⟩ := n
    rw [insertMember] at mem
    split at mem
    · rcases List.mem_cons.mp mem with same | mem
      · exact .inl (congrArg Prod.fst same)
      · exact .inr ⟨m, mem, rfl⟩
    split at mem
    · rcases List.mem_cons.mp mem with same | mem
      · exact .inl (congrArg Prod.fst same)
      · exact .inr ⟨m, List.mem_cons_of_mem _ mem, rfl⟩
    · rcases List.mem_cons.mp mem with same | mem
      · exact .inr ⟨_, List.mem_cons_self, congrArg Prod.fst same.symm⟩
      · exact (ih mem).imp id fun ⟨n, inside, same⟩ => ⟨n, List.mem_cons_of_mem _ inside, same⟩

theorem Ascending.insertMember (h : Ascending sorted) :
    Ascending (insertMember name value sorted) := by
  induction sorted with
  | nil => exact List.pairwise_singleton _ _
  | cons m rest ih =>
    obtain ⟨key, old⟩ := m
    obtain ⟨first, others⟩ := List.pairwise_cons.mp h
    rw [Json.insertMember]
    split
    · next less =>
      refine List.pairwise_cons.mpr ⟨?_, h⟩
      intro n mem
      rcases List.mem_cons.mp mem with rfl | mem
      · exact less
      · exact String.lt_trans less (first n mem)
    split
    · next same => exact List.pairwise_cons.mpr ⟨fun n mem => same ▸ first n mem, others⟩
    · next notLess different =>
      have greater : key < name := by
        refine Decidable.byContradiction fun notGreater => different ?_
        exact String.le_antisymm (String.not_lt.mp notGreater) (String.not_lt.mp notLess)
      refine List.pairwise_cons.mpr ⟨?_, ih others⟩
      intro n mem
      obtain same | ⟨o, inside, same⟩ := name_mem_insertMember mem
      · exact same ▸ greater
      · exact same ▸ first o inside

end

/-! ## Adding all members -/

section
variable {sorted members : List (String × Json)}

theorem ascending_sortMembers (members : List (String × Json)) :
    Ascending (sortMembers members) := by
  have fold (members sorted : List (String × Json)) (h : Ascending sorted) :
      Ascending (members.foldl (fun sorted m => insertMember m.1 m.2 sorted) sorted) := by
    induction members generalizing sorted with
    | nil => exact h
    | cons m members ih => exact ih _ h.insertMember
  exact fold members [] List.Pairwise.nil

/-- Members that ascend already stay as they are. -/
theorem sortMembers_of_ascending (h : Ascending members) : sortMembers members = members := by
  -- generalized over the members that were added before: each new name comes after all of them
  have fold (members sorted : List (String × Json)) (h : Ascending (sorted ++ members)) :
      members.foldl (fun sorted m => insertMember m.1 m.2 sorted) sorted = sorted ++ members := by
    induction members generalizing sorted with
    | nil => rw [List.append_nil, List.foldl_nil]
    | cons m members ih =>
      have last : ∀ n ∈ sorted, n.1 < m.1 := fun n mem =>
        (List.pairwise_append.mp h).2.2 n mem m List.mem_cons_self
      have regroup : sorted ++ m :: members = sorted ++ [m] ++ members := by simp
      rw [List.foldl_cons, insertMember_of_last last, regroup]
      exact ih _ (regroup ▸ h)
  exact fold members [] h

/-- Members of different names are put into another order. -/
theorem sortMembers_perm (distinct : (members.map Prod.fst).Nodup) :
    (sortMembers members).Perm members := by
  -- the names of what was added and of what is left to add differ, and adding keeps that
  have fold (members sorted : List (String × Json))
      (distinct : ((sorted ++ members).map Prod.fst).Nodup) :
      (members.foldl (fun sorted m => insertMember m.1 m.2 sorted) sorted).Perm
        (sorted ++ members) := by
    induction members generalizing sorted with
    | nil => rw [List.append_nil, List.foldl_nil]
    | cons m members ih =>
      have regroup : (sorted ++ m :: members).Perm ((m :: sorted) ++ members) := List.perm_middle
      have distinct' : (((m :: sorted) ++ members).map Prod.fst).Nodup :=
        (regroup.map Prod.fst).nodup_iff.mp distinct
      have new : ∀ n ∈ sorted, n.1 ≠ m.1 := by
        intro n mem same
        rw [List.cons_append, List.map_cons] at distinct'
        refine (List.nodup_cons.mp distinct').1 (same ▸ List.mem_map_of_mem ?_)
        exact List.mem_append_left _ mem
      have added := (@insertMember_perm m.1 m.2 sorted new).append_right members
      refine (ih _ ((added.map Prod.fst).nodup_iff.mpr distinct')).trans ?_
      exact added.trans regroup.symm
  exact fold members [] distinct

end

/-! ## Stored documents -/

mutual

/-- A document as the reader keeps it: the members of its objects, at every depth, in ascending
order of their names. -/
def stored : Json → Json
  | .arr items => .arr (storedIn items)
  | .obj members => .obj (sortMembers (storedUnder members))
  | .null => .null
  | .bool b => .bool b
  | .num n => .num n
  | .str s => .str s

/-- The items of a list as the reader keeps them. -/
def storedIn : List Json → List Json
  | [] => []
  | item :: rest => stored item :: storedIn rest

/-- The values of members as the reader keeps them, in the order of the members. -/
def storedUnder : List (String × Json) → List (String × Json)
  | [] => []
  | (name, value) :: rest => (name, stored value) :: storedUnder rest

end

theorem storedIn_eq (items : List Json) : storedIn items = items.map stored := by
  induction items with
  | nil => rfl
  | cons item rest ih => rw [storedIn, ih, List.map_cons]

theorem storedUnder_eq (members : List (String × Json)) :
    storedUnder members = members.map fun m => (m.1, m.2.stored) := by
  induction members with
  | nil => rfl
  | cons m rest ih => rw [storedUnder, ih, List.map_cons]

theorem names_storedUnder (members : List (String × Json)) :
    (storedUnder members).map Prod.fst = members.map Prod.fst := by
  rw [storedUnder_eq, List.map_map]
  rfl

/-- The names of an object ascend. -/
def NamesAscend : Json → Prop
  | .obj members => Ascending members
  | _ => True

/-- No two members of an object have one name. -/
def NamesDiffer : Json → Prop
  | .obj members => (members.map Prod.fst).Nodup
  | _ => True

theorem lead_stored (v : Json) : v.stored.lead = v.lead := by
  cases v with
  | bool b => rfl
  | _ => rfl

/-- The members that are kept of an object are those that were written, with their values as they
are kept. -/
theorem kept_perm {members : List (String × Json)} (differ : (members.map Prod.fst).Nodup) :
    (sortMembers (storedUnder members)).Perm (members.map fun m => (m.1, m.2.stored)) := by
  rw [← storedUnder_eq]
  exact sortMembers_perm ((names_storedUnder members).symm ▸ differ)

theorem everywhere_stored {P : Number → Prop} {v : Json} (differ : v.Everywhere NamesDiffer)
    (all : v.Everywhere (Numbers P)) : v.stored.Everywhere (Numbers P) := by
  induction v with
  | null => exact trivial
  | bool b => exact trivial
  | num n => exact all
  | str s => exact trivial
  | arr items ih =>
    have inside := (everywhere_arr.mp differ).2
    have numbers := (everywhere_arr.mp all).2
    rw [stored, storedIn_eq, everywhere_arr]
    refine ⟨trivial, ?_⟩
    intro w kept
    obtain ⟨v, mem, rfl⟩ := List.mem_map.mp kept
    exact ih v mem (inside v mem) (numbers v mem)
  | obj members ih =>
    obtain ⟨names, inside⟩ := everywhere_obj.mp differ
    have numbers := (everywhere_obj.mp all).2
    rw [stored, everywhere_obj]
    refine ⟨trivial, ?_⟩
    intro n kept
    obtain ⟨m, mem, rfl⟩ := List.mem_map.mp ((kept_perm names).mem_iff.mp kept)
    exact ih m mem (inside m mem) (numbers m mem)

/-- A document is stored as it is if the names of its objects ascend. -/
theorem stored_of_namesAscend {v : Json} (h : v.Everywhere NamesAscend) : v.stored = v := by
  induction v with
  | null => rfl
  | bool b => rfl
  | num n => rfl
  | str s => rfl
  | arr items ih =>
    have inside := (everywhere_arr.mp h).2
    have same : items.map stored = items.map id :=
      List.map_congr_left fun v mem => ih v mem (inside v mem)
    rw [stored, storedIn_eq, same, List.map_id]
  | obj members ih =>
    obtain ⟨ascending, inside⟩ := everywhere_obj.mp h
    have same : (members.map fun m => (m.1, m.2.stored)) = members.map id :=
      List.map_congr_left fun m mem => Prod.ext rfl (ih m mem (inside m mem))
    rw [stored, storedUnder_eq, same, List.map_id, sortMembers_of_ascending ascending]

end Assay.Json
