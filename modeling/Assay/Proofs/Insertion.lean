import Assay.Proofs.Register
import Mathlib.Data.Finset.Card
import Mathlib.Data.List.Forall2

/-!
# Sequences of insertions

Values are put under names one after the other, some names more than once. Main statement: whatever
was put, the register lists the names in the order of their first mention, each once, and has under
each of them the value that was put there last. So what is asked of a register depends on the
insertions only, and two neighbouring insertions under different names can be exchanged just when
one of the names was there before; otherwise their order remains visible for good.
-/

namespace Assay

/-- The last of some pairs with this name has this value. -/
def LastPut (puts : List (String × β)) (name : String) (value : β) : Prop :=
  ∃ before after, puts = before ++ (name, value) :: after ∧ name ∉ after.map Prod.fst

/-- The pair that is put last is the last one with its name, and hides no other name. -/
theorem lastPut_concat (puts : List (String × β)) (p : String × β) (name : String) (value : β) :
    LastPut (puts ++ [p]) name value ↔
      if name = p.1 then value = p.2 else LastPut puts name value := by
  constructor
  · rintro ⟨before, after, whole, absent⟩
    induction after using List.reverseRecOn with
    | nil =>
      obtain ⟨-, last⟩ := List.append_inj' whole rfl
      obtain rfl := List.singleton_inj.mp last
      simp
    | append_singleton after q _ =>
      rw [← List.cons_append, ← List.append_assoc] at whole
      obtain ⟨front, last⟩ := List.append_inj' whole rfl
      obtain rfl := List.singleton_inj.mp last
      simp only [List.map_append, List.mem_append, not_or] at absent
      have apart : name ≠ p.1 := by simpa using absent.2
      rw [if_neg apart]
      exact ⟨before, after, front, absent.1⟩
  · split
    · next same =>
      rintro rfl
      exact ⟨puts, [], by rw [same], by simp⟩
    · next apart =>
      rintro ⟨before, after, rfl, absent⟩
      refine ⟨before, after ++ [p], by simp, ?_⟩
      simpa using ⟨by simpa using absent, apart⟩

namespace Register

variable {r : Register β}

/-! ## Registers by their names and values -/

/-- Registers with the same names in the same order and the same values under them are equal. -/
theorem eq_of_get? {r' : Register β} (names : r.names = r'.names)
    (values : ∀ name, r.get? name = r'.get? name) : r = r' := by
  apply ext
  apply List.ext_getElem
  · simpa [Register.names] using congrArg List.length names
  · intro i inside inside'
    have key : r.entries[i].1 = r'.entries[i].1 := by
      have same := List.getElem_of_eq names (i := i) (by simpa [Register.names] using inside)
      simpa [Register.names] using same
    have found : r.get? r.entries[i].1 = some r.entries[i].2 :=
      mem_entries_iff.mp (List.getElem_mem inside)
    have found' : r'.get? r'.entries[i].1 = some r'.entries[i].2 :=
      mem_entries_iff.mp (List.getElem_mem inside')
    rw [values, key, found'] at found
    exact Prod.ext key (Option.some.inj found).symm

/-! ## One insertion -/

/-- Under a name that is there a value is replaced where it stands, and nothing else changes. -/
theorem entries_insert_of_mem {name : String} (old : name ∈ r.names) (value : β) :
    (r.insert name value).entries =
      r.entries.map fun e => (e.1, if e.1 = name then value else e.2) := by
  obtain ⟨entries, distinct⟩ := r
  show putEntry name value entries = _
  replace old : name ∈ entries.map Prod.fst := old
  induction entries with
  | nil => cases old
  | cons entry rest ih =>
    obtain ⟨key, first⟩ := entry
    rw [List.map_cons, List.nodup_cons] at distinct
    by_cases same : key = name
    · -- the name does not occur again, so what follows stays as it is
      have others : ∀ e ∈ rest, (e.1, if e.1 = name then value else e.2) = id e := by
        intro e mem
        have apart : e.1 ≠ name := by
          intro again
          exact distinct.1 (List.mem_map.mpr ⟨e, mem, again.trans same.symm⟩)
        simp [apart]
      simp [putEntry, same, List.map_congr_left others]
    · have later : name ∈ rest.map Prod.fst := by
        rcases List.mem_cons.mp old with first | later
        · exact absurd first.symm same
        · exact later
      simp [putEntry, same, ih distinct.2 later]

/-- A name that is not there comes at the end. -/
theorem names_insert_of_notMem {name : String} (new : name ∉ r.names) (value : β) :
    (r.insert name value).names = r.names ++ [name] := by
  rw [names_insert, if_neg new]

theorem mem_names_insert {name other : String} {value : β} :
    other ∈ (r.insert name value).names ↔ other = name ∨ other ∈ r.names := by
  rw [names_insert]
  split
  · next old =>
    constructor
    · exact Or.inr
    · rintro (rfl | mem)
      · exact old
      · exact mem
  · simp [or_comm]

/-! ## Many insertions -/

/-- Puts the pairs of a list in, on top of what is there. -/
def insertAll (r : Register β) (puts : List (String × β)) : Register β :=
  puts.foldl (fun r p => r.insert p.1 p.2) r

theorem insertAll_concat (r : Register β) (puts : List (String × β)) (p : String × β) :
    r.insertAll (puts ++ [p]) = (r.insertAll puts).insert p.1 p.2 := by
  rw [insertAll, List.foldl_append]
  rfl

/-- The names that are there keep their places, whatever is put in after them. -/
theorem names_prefix_insertAll (r : Register β) (puts : List (String × β)) :
    r.names <+: (r.insertAll puts).names := by
  induction puts using List.reverseRecOn with
  | nil => exact List.prefix_rfl
  | append_singleton puts p ih =>
    apply ih.trans
    rw [insertAll_concat, names_insert]
    split
    · exact List.prefix_rfl
    · exact List.prefix_append _ _

/-- A register that has the names and values of some insertions. -/
structure Remembers (puts : List (String × β)) (r : Register β) : Prop where
  names : FirstMentions (puts.map Prod.fst) r.names
  get?_iff : ∀ name value, r.get? name = some value ↔ LastPut puts name value

namespace Remembers

variable {puts : List (String × β)}

theorem empty : Remembers [] (Register.empty : Register β) where
  names := .nil
  get?_iff name value := by
    refine iff_of_false (by simp [get?]) ?_
    rintro ⟨before, after, whole, -⟩
    simp at whole

/-- One more insertion is recorded. -/
theorem insert (h : Remembers puts r) (p : String × β) :
    Remembers (puts ++ [p]) (r.insert p.1 p.2) where
  names := by
    rw [names_insert, List.map_append]
    exact h.names.concat p.1
  get?_iff name value := by
    rw [get?_insert, lastPut_concat, ← h.get?_iff]
    split
    · simp [eq_comm]
    · exact Iff.rfl

/-- All further insertions are recorded. -/
theorem insertAll (h : Remembers puts r) (later : List (String × β)) :
    Remembers (puts ++ later) (r.insertAll later) := by
  induction later using List.reverseRecOn with
  | nil =>
    rw [List.append_nil]
    exact h
  | append_singleton later p ih =>
    rw [insertAll_concat, ← List.append_assoc]
    exact ih.insert p

theorem mem_names_iff (h : Remembers puts r) {name : String} :
    name ∈ r.names ↔ name ∈ puts.map Prod.fst :=
  h.names.mem_iff name

/-- There is nothing in a register just when nothing was put in. -/
theorem isEmpty_iff (h : Remembers puts r) : r.isEmpty = true ↔ puts = [] := by
  rw [isEmpty, List.isEmpty_iff]
  constructor
  · intro none
    have unnamed : r.names = [] := by simp [Register.names, none]
    apply List.eq_nil_iff_forall_not_mem.mpr
    intro p mem
    have there : p.1 ∈ r.names := h.mem_names_iff.mpr (List.mem_map_of_mem mem)
    simp [unnamed] at there
  · rintro rfl
    have unnamed : r.names = [] := by
      apply List.eq_nil_iff_forall_not_mem.mpr
      intro name there
      simpa using h.mem_names_iff.mp there
    simpa [Register.names] using unnamed

/-- There are as many names as different ones were mentioned. -/
theorem size_eq (h : Remembers puts r) : r.size = (puts.map Prod.fst).toFinset.card := by
  have same : r.names.toFinset = (puts.map Prod.fst).toFinset := by
    ext name
    simp only [List.mem_toFinset, h.names.mem_iff]
  rw [← same, List.toFinset_card_of_nodup h.names.nodup, Register.names, List.length_map, size]

end Remembers

theorem remembers_ofList (puts : List (String × β)) : Remembers puts (ofList puts) :=
  Remembers.empty.insertAll puts

/-! ## Neighbouring insertions -/

/-- Insertions under different names can be exchanged when one of the names is there. -/
theorem insert_comm {a b : String} (apart : a ≠ b) (old : a ∈ r.names ∨ b ∈ r.names) (x y : β) :
    (r.insert a x).insert b y = (r.insert b y).insert a x := by
  apply eq_of_get?
  · simp only [names_insert]
    rcases old with old | old
    · by_cases other : b ∈ r.names <;> simp [old, other]
    · by_cases other : a ∈ r.names <;> simp [old, other]
  · intro name
    simp only [get?_insert]
    split
    · next second =>
      have first : name ≠ a := fun same => apart (same.symm.trans second)
      rw [if_neg first]
    · rfl

/-- If both names are new, the order of their insertions is seen in the order of the names. -/
theorem names_insert_insert {a b : String} (apart : a ≠ b) (newA : a ∉ r.names)
    (newB : b ∉ r.names) (x y : β) :
    ((r.insert a x).insert b y).names = r.names ++ [a, b] := by
  have new : b ∉ (r.insert a x).names := by simp [mem_names_insert, newB, apart.symm]
  simp [names_insert_of_notMem new, names_insert_of_notMem newA]

/-- Whatever follows, the order of two insertions under different names leaves no trace just when
one of the names was there before. -/
theorem insert_comm_iff {a b : String} (apart : a ≠ b) (x y : β) (later : List (String × β)) :
    ((r.insert a x).insert b y).insertAll later = ((r.insert b y).insert a x).insertAll later ↔
      a ∈ r.names ∨ b ∈ r.names := by
  constructor
  · intro same
    by_contra new
    obtain ⟨newA, newB⟩ := not_or.mp new
    have front := names_prefix_insertAll ((r.insert a x).insert b y) later
    have front' := names_prefix_insertAll ((r.insert b y).insert a x) later
    rw [← same] at front'
    rw [names_insert_insert apart newA newB] at front
    rw [names_insert_insert apart.symm newB newA] at front'
    -- the names would begin in two ways of the same length
    have equal : r.names ++ [a, b] = r.names ++ [b, a] :=
      List.prefix_of_prefix_length_le front front' (by simp) |>.eq_of_length (by simp)
    simp [apart] at equal
  · intro old
    rw [insert_comm apart old]

/-! ## Equality -/

/-- Lists are equal by `==` when their elements are, one by one. -/
theorem list_beq_iff [BEq α] {xs ys : List α} :
    (xs == ys) = true ↔ List.Forall₂ (fun x y => (x == y) = true) xs ys := by
  induction xs generalizing ys with
  | nil => cases ys <;> simp
  | cons x xs ih => cases ys <;> simp [ih]

/-- Pairs are equal by `==` one by one when their names are equal and so are their values. -/
theorem forall₂_beq_iff [BEq β] {es es' : List (String × β)} :
    List.Forall₂ (fun e e' => (e == e') = true) es es' ↔ es.map Prod.fst = es'.map Prod.fst ∧
      List.Forall₂ (fun v v' => (v == v') = true) (es.map Prod.snd) (es'.map Prod.snd) := by
  induction es generalizing es' with
  | nil => cases es' <;> simp
  | cons e es ih =>
    cases es' with
    | nil => simp
    | cons e' es' =>
      have pair : (e == e') = true ↔ e.1 = e'.1 ∧ (e.2 == e'.2) = true := by
        show (e.1 == e'.1 && e.2 == e'.2) = true ↔ _
        simp
      simp only [List.forall₂_cons, List.map_cons, List.cons.injEq, ih, pair]
      tauto

/-- Registers are equal by `==` when they list the same names and their values are, one by one. -/
theorem beq_iff [BEq β] {r' : Register β} :
    (r == r') = true ↔ r.names = r'.names ∧
      List.Forall₂ (fun v v' => (v == v') = true) (r.entries.map Prod.snd)
        (r'.entries.map Prod.snd) := by
  show (r.entries == r'.entries) = true ↔ _
  rw [list_beq_iff, forall₂_beq_iff]
  rfl

/-! ## The order of insertion -/

/-- **A register is ordered by insertion.** Let pairs be put into an empty register, some of them
collected in a list and the others later, one by one. Its entries are the different names in the
order of their first mention, each with the value that was put there last. That value is found under
a name, and nothing under a name that was never put in; the names, the size and the emptiness are
those of the entries. To put in a name that is there changes its value and no place. Two
neighbouring insertions under different names can be exchanged, whatever follows, just when one of
the names was there before. Registers are equal by `==` when they list the same names in the same
order with values that are equal by `==`. The metrics of a task are such a register of numbers, and
a summary is one of metrics. -/
theorem insertion_ordered [BEq β] {collected later puts : List (String × β)} {r : Register β}
    (all : puts = collected ++ later) (made : r = (ofList collected).insertAll later) :
    (FirstMentions (puts.map Prod.fst) r.names ∧ r.names.Nodup ∧
      ∀ name value, (name, value) ∈ r.entries ↔ LastPut puts name value) ∧
    (∀ name value, r.get? name = some value ↔ LastPut puts name value) ∧
    (∀ name, r.get? name = none ↔ name ∉ puts.map Prod.fst) ∧
    (r.names = r.entries.map Prod.fst ∧ r.size = r.entries.length ∧
      r.size = (puts.map Prod.fst).toFinset.card ∧
      (r.isEmpty = true ↔ r.entries = []) ∧ (r.isEmpty = true ↔ puts = [])) ∧
    (∀ name value, name ∈ r.names → (r.insert name value).entries =
      r.entries.map fun e => (e.1, if e.1 = name then value else e.2)) ∧
    (∀ a b x y rest, a ≠ b →
      (((r.insert a x).insert b y).insertAll rest = ((r.insert b y).insert a x).insertAll rest ↔
        a ∈ r.names ∨ b ∈ r.names)) ∧
    ∀ r' : Register β, (r == r') = true ↔ r.names = r'.names ∧
      List.Forall₂ (fun v v' => (v == v') = true) (r.entries.map Prod.snd)
        (r'.entries.map Prod.snd) := by
  have told : Remembers puts r := by
    rw [all, made]
    exact (remembers_ofList collected).insertAll later
  refine ⟨⟨told.names, told.names.nodup, ?_⟩, told.get?_iff, ?_,
    ⟨rfl, rfl, told.size_eq, List.isEmpty_iff, told.isEmpty_iff⟩, ?_, ?_, fun _ => beq_iff⟩
  · intro name value
    rw [mem_entries_iff, told.get?_iff]
  · intro name
    rw [get?_eq_none_iff, told.mem_names_iff]
  · intro name value old
    exact entries_insert_of_mem old value
  · intro a b x y rest apart
    exact insert_comm_iff apart x y rest

/-- Metrics that were collected with a name twice, an empty one and a value that is no number, and
then had one of them replaced and another one added. -/
def repeatedMetrics : Register Float :=
  (ofList [("f1", 1), ("", 0 / 0), ("f1", 0.5)]).insertAll [("recall", 0.25), ("f1", 0.75)]

/-- The replaced value is found, at the first place; two new names cannot be exchanged; and the
metrics are not equal to themselves. -/
theorem insertion_ordered_repeated :
    repeatedMetrics.names = ["f1", "", "recall"] ∧ repeatedMetrics.get? "f1" = some 0.75 ∧
      (repeatedMetrics.insert "a" 1).insert "b" 0 ≠ (repeatedMetrics.insert "b" 0).insert "a" 1 ∧
      (repeatedMetrics == repeatedMetrics) = false := by
  obtain ⟨-, found, -, -, -, exchange, equal⟩ := insertion_ordered (r := repeatedMetrics) rfl rfl
  refine ⟨by decide, ?_, ?_, ?_⟩
  · have front : LastPut ([("f1", 1), ("", 0 / 0), ("f1", 0.5), ("recall", 0.25)] ++
        [("f1", 0.75)]) "f1" (0.75 : Float) := ⟨_, [], rfl, List.not_mem_nil⟩
    exact (found "f1" 0.75).mpr front
  · intro same
    have there := (exchange "a" "b" 1 0 [] (by decide)).mp same
    exact absurd there (by decide)
  · rw [Bool.eq_false_iff, ne_eq, equal]
    decide

end Register

end Assay
