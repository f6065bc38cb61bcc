import Assay.Json.Value

/-!
# Documents as trees

Induction over a document and over two documents side by side, a property of all parts of a document
(`Everywhere`), and how deep its lists and objects nest. Each of them descends into the items of a
list and the values of the members of an object; the lemmas say so with membership, so that no later
proof follows the lists again.
-/

namespace Assay.Json

/-- What holds of a list and of an object as soon as it holds of what is directly in them, and of
everything else, holds of every document. -/
@[induction_eliminator]
theorem tree_induction {motive : Json → Prop} (null : motive .null)
    (bool : ∀ b, motive (.bool b)) (num : ∀ n, motive (.num n)) (str : ∀ s, motive (.str s))
    (arr : ∀ items, (∀ v ∈ items, motive v) → motive (.arr items))
    (obj : ∀ members : List (String × Json), (∀ m ∈ members, motive m.2) → motive (.obj members))
    (v : Json) : motive v := by
  refine @Json.rec motive (fun items => ∀ v ∈ items, motive v)
    (fun members => ∀ m ∈ members, motive m.2) (fun m => motive m.2)
    null bool num str arr obj ?_ ?_ ?_ ?_ (fun _ _ value => value) v
  · exact fun _ mem => absurd mem List.not_mem_nil
  · intro head tail first others v mem
    rcases List.mem_cons.mp mem with rfl | mem
    · exact first
    · exact others v mem
  · exact fun _ mem => absurd mem List.not_mem_nil
  · intro head tail first others m mem
    rcases List.mem_cons.mp mem with rfl | mem
    · exact first
    · exact others m mem

/-! ## Kinds -/

/-- The kinds of documents, which the first character of a text tells apart. -/
inductive Lead where
  | null
  | yes
  | no
  | number
  | text
  | list
  | object
  deriving DecidableEq

/-- The kind of a document. -/
def lead : Json → Lead
  | .null => .null
  | .bool true => .yes
  | .bool false => .no
  | .num _ => .number
  | .str _ => .text
  | .arr _ => .list
  | .obj _ => .object

/-- What holds of documents of different kinds, and of two documents of one kind as soon as it holds
of whatever is directly in the first against every document, holds of every two documents. -/
theorem pair_induction {motive : Json → Json → Prop}
    (apart : ∀ v w, v.lead ≠ w.lead → motive v w) (null : motive .null .null)
    (bool : ∀ b, motive (.bool b) (.bool b)) (num : ∀ m n, motive (.num m) (.num n))
    (str : ∀ s t, motive (.str s) (.str t))
    (arr : ∀ items others, (∀ v ∈ items, ∀ w, motive v w) → motive (.arr items) (.arr others))
    (obj : ∀ members others : List (String × Json), (∀ m ∈ members, ∀ w, motive m.2 w) →
      motive (.obj members) (.obj others)) (v w : Json) : motive v w := by
  induction v generalizing w with
  | null =>
    cases w with
    | null => exact null
    | bool c => exact apart _ _ (by cases c <;> simp [lead])
    | _ => exact apart _ _ (by simp [lead])
  | bool b =>
    cases w with
    | bool c =>
      by_cases same : b = c
      · exact same ▸ bool b
      · exact apart _ _ (by cases b <;> cases c <;> simp_all [lead])
    | _ => exact apart _ _ (by cases b <;> simp [lead])
  | num m =>
    cases w with
    | num n => exact num m n
    | bool c => exact apart _ _ (by cases c <;> simp [lead])
    | _ => exact apart _ _ (by simp [lead])
  | str s =>
    cases w with
    | str t => exact str s t
    | bool c => exact apart _ _ (by cases c <;> simp [lead])
    | _ => exact apart _ _ (by simp [lead])
  | arr items ih =>
    cases w with
    | arr others => exact arr items others ih
    | bool c => exact apart _ _ (by cases c <;> simp [lead])
    | _ => exact apart _ _ (by simp [lead])
  | obj members ih =>
    cases w with
    | obj others => exact obj members others ih
    | bool c => exact apart _ _ (by cases c <;> simp [lead])
    | _ => exact apart _ _ (by simp [lead])

/-! ## Properties of all parts -/

mutual

/-- Every part of a document has a property, the document itself included. -/
def Everywhere (P : Json → Prop) : Json → Prop
  | .arr items => P (.arr items) ∧ EverywhereIn P items
  | .obj members => P (.obj members) ∧ EverywhereUnder P members
  | .null => P .null
  | .bool b => P (.bool b)
  | .num n => P (.num n)
  | .str s => P (.str s)

/-- Every part of every item has a property. -/
def EverywhereIn (P : Json → Prop) : List Json → Prop
  | [] => True
  | item :: rest => Everywhere P item ∧ EverywhereIn P rest

/-- Every part of the value of every member has a property. -/
def EverywhereUnder (P : Json → Prop) : List (String × Json) → Prop
  | [] => True
  | (_, value) :: rest => Everywhere P value ∧ EverywhereUnder P rest

end

variable {P Q : Json → Prop}

theorem everywhere_arr {items : List Json} :
    Everywhere P (.arr items) ↔ P (.arr items) ∧ ∀ v ∈ items, Everywhere P v := by
  have each : EverywhereIn P items ↔ ∀ v ∈ items, Everywhere P v := by
    induction items with
    | nil => simp [EverywhereIn]
    | cons item rest ih => simp [EverywhereIn, ih]
  rw [Everywhere, each]

theorem everywhere_obj {members : List (String × Json)} :
    Everywhere P (.obj members) ↔ P (.obj members) ∧ ∀ m ∈ members, Everywhere P m.2 := by
  have each : EverywhereUnder P members ↔ ∀ m ∈ members, Everywhere P m.2 := by
    induction members with
    | nil => simp [EverywhereUnder]
    | cons m rest ih => simp only [EverywhereUnder, ih, List.forall_mem_cons]
  rw [Everywhere, each]

theorem Everywhere.self {v : Json} (h : Everywhere P v) : P v := by
  cases v with
  | null => exact h
  | bool b => exact h
  | num n => exact h
  | str s => exact h
  | arr items => exact (everywhere_arr.mp h).1
  | obj members => exact (everywhere_obj.mp h).1

theorem Everywhere.imp (weaker : ∀ v, P v → Q v) {v : Json} (h : Everywhere P v) :
    Everywhere Q v := by
  induction v with
  | null => exact weaker _ h
  | bool b => exact weaker _ h
  | num n => exact weaker _ h
  | str s => exact weaker _ h
  | arr items ih =>
    obtain ⟨here, inside⟩ := everywhere_arr.mp h
    exact everywhere_arr.mpr ⟨weaker _ here, fun v mem => ih v mem (inside v mem)⟩
  | obj members ih =>
    obtain ⟨here, inside⟩ := everywhere_obj.mp h
    exact everywhere_obj.mpr ⟨weaker _ here, fun m mem => ih m mem (inside m mem)⟩

/-- What is a number has a property. -/
def Numbers (P : Number → Prop) : Json → Prop
  | .num n => P n
  | _ => True

theorem Numbers.imp {P Q : Number → Prop} (weaker : ∀ n, P n → Q n) {v : Json}
    (h : Numbers P v) : Numbers Q v := by
  cases v with
  | num n => exact weaker n h
  | _ => exact trivial

/-! ## Depth -/

mutual

/-- How many lists and objects stand around the innermost part of a document. -/
def depth : Json → Nat
  | .arr items => depthIn items + 1
  | .obj members => depthUnder members + 1
  | _ => 0

/-- The depth of the deepest item. -/
def depthIn : List Json → Nat
  | [] => 0
  | item :: rest => max (depth item) (depthIn rest)

/-- The depth of the deepest value of a member. -/
def depthUnder : List (String × Json) → Nat
  | [] => 0
  | (_, value) :: rest => max (depth value) (depthUnder rest)

end

theorem depth_arr_le {items : List Json} {d : Nat} :
    depth (.arr items) ≤ d + 1 ↔ ∀ v ∈ items, depth v ≤ d := by
  have each : depthIn items ≤ d ↔ ∀ v ∈ items, depth v ≤ d := by
    induction items with
    | nil => simp [depthIn]
    | cons item rest ih => simp only [depthIn, Nat.max_le, ih, List.forall_mem_cons]
  rw [depth, Nat.add_le_add_iff_right, each]

theorem depth_obj_le {members : List (String × Json)} {d : Nat} :
    depth (.obj members) ≤ d + 1 ↔ ∀ m ∈ members, depth m.2 ≤ d := by
  have each : depthUnder members ≤ d ↔ ∀ m ∈ members, depth m.2 ≤ d := by
    induction members with
    | nil => simp [depthUnder]
    | cons m rest ih => simp only [depthUnder, Nat.max_le, ih, List.forall_mem_cons]
  rw [depth, Nat.add_le_add_iff_right, each]

end Assay.Json
