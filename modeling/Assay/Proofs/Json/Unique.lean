import Assay.Proofs.Json.Leading
import Assay.Proofs.Json.Members
import Mathlib.Data.List.Forall2
import Mathlib.Data.List.Sort

/-!
# One text, one document

Main statement: two documents, each with its objects as the reader keeps them, have one compact text
exactly if they are the same document (`Same`), in whatever order their members were written.

A compact text tells where it ends (`delimited`), if no character of a number follows it. So the
texts of two lists agree item by item, and the texts of two objects member by member; as the names
ascend in both, the members then agree whatever order they were written in.
-/

namespace Assay.Json

/-! ## The same document -/

/-- Two documents are the same: both null, the same truth value, numbers with one text, equal
strings, lists of the same items in the same order, or objects with the same names and with the same
value under each of them. -/
inductive Same : Json → Json → Prop
  | null : Same .null .null
  | bool (b : Bool) : Same (.bool b) (.bool b)
  | num {m n : Number} (text : m.chars = n.chars) : Same (.num m) (.num n)
  | str (s : String) : Same (.str s) (.str s)
  | arr {items others : List Json} (each : List.Forall₂ Same items others) :
    Same (.arr items) (.arr others)
  | obj {members others : List (String × Json)}
    (names : ∀ name, name ∈ members.map Prod.fst ↔ name ∈ others.map Prod.fst)
    (values : ∀ m ∈ members, ∀ n ∈ others, m.1 = n.1 → Same m.2 n.2) :
    Same (.obj members) (.obj others)

theorem Same.lead_eq {v w : Json} (h : Same v w) : v.lead = w.lead := by
  cases h <;> rfl

/-! ## Where a text ends -/

/-- What may follow a document in a text without continuing a number. -/
def Stops (cs : List Char) : Prop :=
  ∀ c after, cs = c :: after → Decimal.isNumeral c = false

theorem stops_compactItems (items : List Json) (rest : List Char) :
    Stops (compactItems items ++ rest) := by
  intro c after same
  cases items with
  | nil =>
    cases same
    decide
  | cons v items =>
    cases same
    decide

theorem stops_compactMembers (members : List (String × Json)) (rest : List Char) :
    Stops (compactMembers members ++ rest) := by
  intro c after same
  cases members with
  | nil =>
    cases same
    decide
  | cons m members =>
    cases same
    decide

section
variable {v w : Json} {r r' : List Char}

/-- Two texts that go on alike are of documents of one kind. -/
theorem lead_eq_of_append (finite : Numbers Number.IsFinite v) (finite' : Numbers Number.IsFinite w)
    (same : compactChars v ++ r = compactChars w ++ r') : v.lead = w.lead := by
  obtain ⟨c, cs, written, begins⟩ := exists_lead finite
  obtain ⟨d, ds, written', begins'⟩ := exists_lead finite'
  rw [written, written', List.cons_append, List.cons_append] at same
  rw [(List.cons.inj same).1, begins'] at begins
  exact (Option.some.inj begins).symm

/-- A number goes on as long as there are characters of numbers. -/
theorem takeWhile_numeral {n : Number} (finite : n.IsFinite) (stops : Stops r) :
    (n.chars ++ r).takeWhile Decimal.isNumeral = n.chars := by
  have all : ∀ c ∈ n.chars, Decimal.isNumeral c = true := by
    obtain ⟨sign, _, minus, ⟨d, ds, rfl, digit, inside⟩, written⟩ := n.chars_eq finite
    intro c mem
    rw [written] at mem
    rcases List.mem_append.mp mem with mem | mem
    · rcases minus with rfl | rfl
      · cases mem
      · rw [List.mem_singleton.mp mem]
        decide
    · rcases List.mem_cons.mp mem with rfl | mem
      · exact Decimal.isNumeral_of_isDigit digit
      · exact inside c mem
  have none : r.takeWhile Decimal.isNumeral = [] := by
    cases r with
    | nil => rfl
    | cons c after => rw [List.takeWhile_cons_of_neg (by simp [stops c after rfl])]
  rw [List.takeWhile_append_of_pos all, none, List.append_nil]

theorem number_append_inj {m n : Number} (finite : m.IsFinite) (finite' : n.IsFinite)
    (stops : Stops r) (stops' : Stops r') (same : m.chars ++ r = n.chars ++ r') :
    m.chars = n.chars ∧ r = r' := by
  -- both texts begin with the same longest run of the characters of numbers
  have word : m.chars = n.chars := by
    rw [← takeWhile_numeral finite stops, same, takeWhile_numeral finite' stops']
  rw [word] at same
  exact ⟨word, List.append_cancel_left same⟩

theorem quoteChars_append_inj {s t : String}
    (same : quoteChars s.toList ++ r = quoteChars t.toList ++ r') : s = t ∧ r = r' := by
  have reads := readString_quoteChars s r
  rw [same, readString_quoteChars] at reads
  cases reads
  exact ⟨rfl, rfl⟩

end

/-- What follows the text of a document, and the text itself, can be told from the two together. -/
def Delimited (v : Json) : Prop :=
  ∀ (w : Json) (r r' : List Char), w.Everywhere (Numbers Number.IsFinite) → Stops r → Stops r' →
    compactChars v ++ r = compactChars w ++ r' → compactChars v = compactChars w ∧ r = r'

/-! ## Lists -/

section
variable {items others : List Json} {r r' : List Char}

/-- The items after the first are told apart one by one. -/
theorem compactItems_append_inj (each : ∀ v ∈ items, Delimited v)
    (finite : ∀ w ∈ others, w.Everywhere (Numbers Number.IsFinite))
    (same : compactItems items ++ r = compactItems others ++ r') :
    List.Forall₂ (compactChars · = compactChars ·) items others ∧ r = r' := by
  induction items generalizing others with
  | nil =>
    cases others with
    | nil => exact ⟨.nil, (List.cons.inj same).2⟩
    | cons w others => exact absurd (List.cons.inj same).1 (by decide)
  | cons v items ih =>
    cases others with
    | nil => exact absurd (List.cons.inj same).1 (by decide)
    | cons w others =>
      obtain ⟨first, each⟩ := List.forall_mem_cons.mp each
      obtain ⟨number, finite⟩ := List.forall_mem_cons.mp finite
      simp only [compactItems, List.cons_append, List.append_assoc, List.cons.injEq,
        true_and] at same
      obtain ⟨head, tail⟩ := first w _ _ number (stops_compactItems items r)
        (stops_compactItems others r') same
      obtain ⟨later, rest⟩ := ih each finite tail
      exact ⟨.cons head later, rest⟩

/-- After its bracket a list with items does not go on as one without items. -/
theorem compactChars_arr_cons_ne {v : Json} (finite : v.Everywhere (Numbers Number.IsFinite)) :
    compactChars (.arr (v :: items)) ++ r ≠ compactChars (.arr []) ++ r' := by
  intro same
  obtain ⟨c, cs, written, begins⟩ := exists_lead finite.self
  have inner : compactChars v ++ compactItems items ++ r = ']' :: r' := (List.cons.inj same).2
  rw [written] at inner
  exact (of_leadOf begins).2 (List.cons.inj inner).1

/-- The items of a list are told apart one by one. -/
theorem compactChars_arr_append_inj (each : ∀ v ∈ items, Delimited v)
    (finite : ∀ v ∈ items, v.Everywhere (Numbers Number.IsFinite))
    (finite' : ∀ w ∈ others, w.Everywhere (Numbers Number.IsFinite))
    (same : compactChars (.arr items) ++ r = compactChars (.arr others) ++ r') :
    List.Forall₂ (compactChars · = compactChars ·) items others ∧ r = r' := by
  cases items with
  | nil =>
    cases others with
    | nil => exact ⟨.nil, List.append_cancel_left same⟩
    | cons w others =>
      exact absurd same.symm (compactChars_arr_cons_ne (finite' w List.mem_cons_self))
  | cons v items =>
    cases others with
    | nil => exact absurd same (compactChars_arr_cons_ne (finite v List.mem_cons_self))
    | cons w others =>
      -- the first item is written as those after it are, with the bracket for a comma
      have inner : compactItems (v :: items) ++ r = compactItems (w :: others) ++ r' :=
        congrArg (',' :: ·) (List.cons.inj same).2
      exact compactItems_append_inj each finite' inner

theorem compactItems_congr (h : List.Forall₂ (compactChars · = compactChars ·) items others) :
    compactItems items = compactItems others := by
  induction h with
  | nil => rfl
  | cons head _ ih => rw [compactItems, compactItems, head, ih]

theorem compactChars_arr_congr (h : List.Forall₂ (compactChars · = compactChars ·) items others) :
    compactChars (.arr items) = compactChars (.arr others) := by
  cases h with
  | nil => rfl
  | cons head tail => rw [compactChars, compactChars, head, compactItems_congr tail]

end

/-! ## Objects -/

/-- Members of one name whose values have one text. -/
def SameMember (m n : String × Json) : Prop :=
  m.1 = n.1 ∧ compactChars m.2 = compactChars n.2

section
variable {members others : List (String × Json)} {r r' : List Char}

/-- A name is told apart, and then the value after it. -/
theorem member_append_inj {m n : String × Json} (value : Delimited m.2)
    (finite : n.2.Everywhere (Numbers Number.IsFinite)) (stops : Stops r) (stops' : Stops r')
    (same : quoteChars m.1.toList ++ ':' :: (compactChars m.2 ++ r) =
      quoteChars n.1.toList ++ ':' :: (compactChars n.2 ++ r')) : SameMember m n ∧ r = r' := by
  obtain ⟨name, after⟩ := quoteChars_append_inj same
  obtain ⟨text, rest⟩ := value n.2 r r' finite stops stops' (List.cons.inj after).2
  exact ⟨⟨name, text⟩, rest⟩

/-- The members after the first are told apart one by one. -/
theorem compactMembers_append_inj (each : ∀ m ∈ members, Delimited m.2)
    (finite : ∀ n ∈ others, n.2.Everywhere (Numbers Number.IsFinite))
    (same : compactMembers members ++ r = compactMembers others ++ r') :
    List.Forall₂ SameMember members others ∧ r = r' := by
  induction members generalizing others with
  | nil =>
    cases others with
    | nil => exact ⟨.nil, (List.cons.inj same).2⟩
    | cons n others => exact absurd (List.cons.inj same).1 (by decide : '\x7d' ≠ ',')
  | cons m members ih =>
    cases others with
    | nil => exact absurd (List.cons.inj same).1 (by decide : ',' ≠ '\x7d')
    | cons n others =>
      obtain ⟨first, each⟩ := List.forall_mem_cons.mp each
      obtain ⟨number, finite⟩ := List.forall_mem_cons.mp finite
      simp only [compactMembers, List.cons_append, List.append_assoc, List.cons.injEq,
        true_and] at same
      obtain ⟨head, tail⟩ := member_append_inj first number (stops_compactMembers members r)
        (stops_compactMembers others r') same
      obtain ⟨later, rest⟩ := ih each finite tail
      exact ⟨.cons head later, rest⟩

/-- The members of an object are told apart one by one. -/
theorem compactChars_obj_append_inj (each : ∀ m ∈ members, Delimited m.2)
    (finite : ∀ n ∈ others, n.2.Everywhere (Numbers Number.IsFinite))
    (same : compactChars (.obj members) ++ r = compactChars (.obj others) ++ r') :
    List.Forall₂ SameMember members others ∧ r = r' := by
  cases members with
  | nil =>
    cases others with
    | nil => exact ⟨.nil, List.append_cancel_left same⟩
    | cons n others =>
      exact absurd (List.cons.inj (List.cons.inj same).2).1 (by decide : '\x7d' ≠ '"')
  | cons m members =>
    cases others with
    | nil => exact absurd (List.cons.inj (List.cons.inj same).2).1 (by decide : '"' ≠ '\x7d')
    | cons n others =>
      have inner : compactMembers (m :: members) ++ r = compactMembers (n :: others) ++ r' :=
        congrArg (',' :: ·) (List.cons.inj same).2
      exact compactMembers_append_inj each finite inner

theorem compactMembers_congr (h : List.Forall₂ SameMember members others) :
    compactMembers members = compactMembers others := by
  induction h with
  | nil => rfl
  | cons head _ ih => rw [compactMembers, compactMembers, head.1, head.2, ih]

theorem compactChars_obj_congr (h : List.Forall₂ SameMember members others) :
    compactChars (.obj members) = compactChars (.obj others) := by
  cases h with
  | nil => rfl
  | cons head tail => rw [compactChars, compactChars, head.1, head.2, compactMembers_congr tail]

end

/-! ## Whole documents -/

/-- The text of every document tells where it ends. -/
theorem delimited {v : Json} (finite : v.Everywhere (Numbers Number.IsFinite)) : Delimited v := by
  intro w r r' finite' stops stops' same
  -- the first characters tell that both are of one kind; what follows goes with the induction,
  -- because the text of an item is followed by those of the items after it
  induction v, w using pair_induction generalizing r r' with
  | apart v w kind => exact absurd (lead_eq_of_append finite.self finite'.self same) kind
  | null => exact ⟨rfl, List.append_cancel_left same⟩
  | bool b => exact ⟨rfl, List.append_cancel_left same⟩
  | num m n => exact number_append_inj finite finite' stops stops' same
  | str s t =>
    obtain ⟨rfl, rest⟩ := quoteChars_append_inj same
    exact ⟨rfl, rest⟩
  | arr items others ih =>
    have inside := (everywhere_arr.mp finite).2
    have inside' := (everywhere_arr.mp finite').2
    have each : ∀ v ∈ items, Delimited v := fun v mem w => ih v mem w (inside v mem)
    obtain ⟨texts, rest⟩ := compactChars_arr_append_inj each inside inside' same
    exact ⟨compactChars_arr_congr texts, rest⟩
  | obj members others ih =>
    have inside := (everywhere_obj.mp finite).2
    have inside' := (everywhere_obj.mp finite').2
    have each : ∀ m ∈ members, Delimited m.2 := fun m mem w => ih m mem w (inside m mem)
    obtain ⟨texts, rest⟩ := compactChars_obj_append_inj each inside' same
    exact ⟨compactChars_obj_congr texts, rest⟩

section
variable {v w : Json} {items : List Json} {members others : List (String × Json)}

theorem compactChars_arr_eq_iff {items others : List Json}
    (finite : ∀ v ∈ items, v.Everywhere (Numbers Number.IsFinite))
    (finite' : ∀ w ∈ others, w.Everywhere (Numbers Number.IsFinite)) :
    compactChars (.arr items) = compactChars (.arr others) ↔
      List.Forall₂ (compactChars · = compactChars ·) items others := by
  constructor
  · intro same
    have same : compactChars (.arr items) ++ [] = compactChars (.arr others) ++ [] := by rw [same]
    have each : ∀ v ∈ items, Delimited v := fun v mem => delimited (finite v mem)
    exact (compactChars_arr_append_inj each finite finite' same).1
  · exact compactChars_arr_congr

theorem compactChars_obj_eq_iff
    (finite : ∀ m ∈ members, m.2.Everywhere (Numbers Number.IsFinite))
    (finite' : ∀ n ∈ others, n.2.Everywhere (Numbers Number.IsFinite)) :
    compactChars (.obj members) = compactChars (.obj others) ↔
      List.Forall₂ SameMember members others := by
  constructor
  · intro same
    have same : compactChars (.obj members) ++ [] = compactChars (.obj others) ++ [] := by rw [same]
    have each : ∀ m ∈ members, Delimited m.2 := fun m mem => delimited (finite m mem)
    exact (compactChars_obj_append_inj each finite' same).1
  · exact compactChars_obj_congr

/-! ## Members in order -/

/-- In ascending order, the members of two objects agree one by one if the objects have the same
names, with one text under each of them. -/
theorem forall₂_sameMember_iff (ascending : Ascending members) (ascending' : Ascending others) :
    List.Forall₂ SameMember members others ↔
      (∀ name, name ∈ members.map Prod.fst ↔ name ∈ others.map Prod.fst) ∧
        ∀ m ∈ members, ∀ n ∈ others, m.1 = n.1 → compactChars m.2 = compactChars n.2 := by
  have order : (members.map Prod.fst).Pairwise (· < ·) := List.pairwise_map.mpr ascending
  have order' : (others.map Prod.fst).Pairwise (· < ·) := List.pairwise_map.mpr ascending'
  have beside : members.map Prod.fst = others.map Prod.fst ↔
      List.Forall₂ (fun m n => m.1 = n.1) members others := by
    rw [← List.forall₂_eq_eq_eq, List.forall₂_map_left_iff, List.forall₂_map_right_iff]
  constructor
  · intro same
    have equal := beside.mpr (same.imp fun _ _ both => both.1)
    refine ⟨fun name => by rw [equal], ?_⟩
    intro m mem n mem' name
    -- the member that stands beside `m` has its name, and `n` is the only one of that name
    obtain ⟨i, h, rfl⟩ := List.mem_iff_getElem.mp mem
    have h' : i < others.length := same.length_eq ▸ h
    obtain ⟨name', text⟩ : SameMember members[i] others[i] := same.get h h'
    have only : others[i] = n :=
      List.inj_on_of_nodup_map ascending'.nodup (List.getElem_mem h') mem' (name'.symm.trans name)
    exact only ▸ text
  · rintro ⟨names, values⟩
    have equal := beside.mp (order.eq_of_mem_iff order' names)
    rw [List.forall₂_iff_zip] at equal ⊢
    refine ⟨equal.1, ?_⟩
    intro m n both
    obtain ⟨mem, mem'⟩ := List.of_mem_zip both
    exact ⟨equal.2 both, values m mem n mem' (equal.2 both)⟩

/-! ## One text, one document -/

/-- A relation between two lists may be replaced by one that follows from it on their items. -/
theorem related_imp {R S : Json → Json → Prop} {items others : List Json}
    (weaker : ∀ v ∈ items, ∀ w ∈ others, R v w → S v w) (h : List.Forall₂ R items others) :
    List.Forall₂ S items others := by
  rw [List.forall₂_iff_zip] at h ⊢
  refine ⟨h.1, ?_⟩
  intro v w both
  obtain ⟨mem, mem'⟩ := List.of_mem_zip both
  exact weaker v mem w mem' (h.2 both)

theorem same_arr {items others : List Json} :
    Same (.arr items) (.arr others) ↔ List.Forall₂ Same items others := by
  constructor
  · rintro ⟨⟩
    assumption
  · exact Same.arr

theorem same_obj : Same (.obj members) (.obj others) ↔
    (∀ name, name ∈ members.map Prod.fst ↔ name ∈ others.map Prod.fst) ∧
      ∀ m ∈ members, ∀ n ∈ others, m.1 = n.1 → Same m.2 n.2 := by
  constructor
  · rintro ⟨⟩
    exact ⟨‹_›, ‹_›⟩
  · exact fun ⟨names, values⟩ => Same.obj names values

/-- Two lists are kept with one text exactly if their items are, one by one. -/
theorem compactChars_stored_arr {items others : List Json}
    (finite : (stored (.arr items)).Everywhere (Numbers Number.IsFinite))
    (finite' : (stored (.arr others)).Everywhere (Numbers Number.IsFinite)) :
    compactChars (stored (.arr items)) = compactChars (stored (.arr others)) ↔
      List.Forall₂ (fun v w => compactChars v.stored = compactChars w.stored) items others := by
  rw [stored, storedIn_eq] at finite finite'
  rw [stored, storedIn_eq, stored, storedIn_eq,
    compactChars_arr_eq_iff (everywhere_arr.mp finite).2 (everywhere_arr.mp finite').2,
    List.forall₂_map_left_iff, List.forall₂_map_right_iff]

/-- Two objects are kept with one text exactly if they have the same names, and if the values under
each name are kept with one text. -/
theorem compactChars_stored_obj (distinct : (members.map Prod.fst).Nodup)
    (distinct' : (others.map Prod.fst).Nodup)
    (finite : (stored (.obj members)).Everywhere (Numbers Number.IsFinite))
    (finite' : (stored (.obj others)).Everywhere (Numbers Number.IsFinite)) :
    compactChars (stored (.obj members)) = compactChars (stored (.obj others)) ↔
      (∀ name, name ∈ members.map Prod.fst ↔ name ∈ others.map Prod.fst) ∧
        ∀ m ∈ members, ∀ n ∈ others, m.1 = n.1 →
          compactChars m.2.stored = compactChars n.2.stored := by
  have kept := kept_perm distinct
  have kept' := kept_perm distinct'
  rw [stored] at finite finite'
  rw [stored, stored, compactChars_obj_eq_iff (everywhere_obj.mp finite).2
    (everywhere_obj.mp finite').2,
    forall₂_sameMember_iff (ascending_sortMembers _) (ascending_sortMembers _)]
  -- what is said of the kept members does not depend on their order
  refine and_congr ?_ ?_
  · refine forall_congr' fun name => ?_
    rw [(kept.map Prod.fst).mem_iff, (kept'.map Prod.fst).mem_iff, List.map_map, List.map_map]
    rfl
  · simp only [kept.mem_iff, kept'.mem_iff, List.forall_mem_map]

/-- Two documents are kept with one compact text exactly if they are the same. -/
theorem compactChars_stored_eq_iff (differ : v.Everywhere NamesDiffer)
    (differ' : w.Everywhere NamesDiffer) (finite : v.Everywhere (Numbers Number.IsFinite))
    (finite' : w.Everywhere (Numbers Number.IsFinite)) :
    compactChars v.stored = compactChars w.stored ↔ Same v w := by
  induction v, w using pair_induction with
  | apart v w kind =>
    refine iff_of_false ?_ fun same => kind same.lead_eq
    intro same
    have alike := lead_eq_of_append (everywhere_stored differ finite).self
      (everywhere_stored differ' finite').self (congrArg (· ++ []) same)
    rw [lead_stored, lead_stored] at alike
    exact kind alike
  | null => exact iff_of_true rfl .null
  | bool b => exact iff_of_true rfl (.bool b)
  | num m n =>
    constructor
    · exact Same.num
    · rintro ⟨⟩
      assumption
  | str s t =>
    constructor
    · intro same
      obtain ⟨rfl, -⟩ := quoteChars_append_inj (congrArg (· ++ []) same)
      exact .str s
    · rintro ⟨⟩
      rfl
  | arr items others ih =>
    rw [compactChars_stored_arr (everywhere_stored differ finite)
      (everywhere_stored differ' finite'), same_arr]
    have names := (everywhere_arr.mp differ).2
    have names' := (everywhere_arr.mp differ').2
    have inside := (everywhere_arr.mp finite).2
    have inside' := (everywhere_arr.mp finite').2
    have each (v : Json) (mem : v ∈ items) (w : Json) (mem' : w ∈ others) :=
      ih v mem w (names v mem) (names' w mem') (inside v mem) (inside' w mem')
    constructor
    · exact related_imp fun v mem w mem' => (each v mem w mem').mp
    · exact related_imp fun v mem w mem' => (each v mem w mem').mpr
  | obj members others ih =>
    obtain ⟨distinct, names⟩ := everywhere_obj.mp differ
    obtain ⟨distinct', names'⟩ := everywhere_obj.mp differ'
    rw [compactChars_stored_obj distinct distinct' (everywhere_stored differ finite)
      (everywhere_stored differ' finite'), same_obj]
    have inside := (everywhere_obj.mp finite).2
    have inside' := (everywhere_obj.mp finite').2
    refine and_congr_right fun _ => ?_
    refine forall₂_congr fun m mem => forall₂_congr fun n mem' => imp_congr_right fun _ => ?_
    exact ih m mem n.2 (names m mem) (names' n mem') (inside m mem) (inside' n mem')

end

end Assay.Json
