import Assay.Proofs.Json.Tree
import Assay.Proofs.Json.Words

/-!
# Compact and indented text as one

The two texts of a document differ only in the blanks between their words: after a bracket or a
comma and before a closing bracket, where the indented text begins a line, and after the colon of a
member. `spaced` writes a document with such blanks for any `Spacing`, so what is said of it holds of
both texts: first of all, that nothing in a text continues the number before it.
-/

namespace Assay.Json

theorem skipBlanks_append {gap : List Char} (blank : ∀ c ∈ gap, isBlank c = true)
    (cs : List Char) : skipBlanks (gap ++ cs) = skipBlanks cs :=
  List.dropWhile_append_of_pos blank

/-- The blanks of a text. -/
structure Spacing where
  /-- Before an item, a member or a closing bracket, by the depth of what it stands in. -/
  line : Nat → List Char
  /-- After the colon of a member. -/
  colon : List Char
  blank_line : ∀ depth, ∀ c ∈ line depth, isBlank c = true
  blank_colon : ∀ c ∈ colon, isBlank c = true

namespace Spacing

/-- No blanks at all. -/
def tight : Spacing where
  line _ := []
  colon := []
  blank_line _ := List.forall_mem_nil _
  blank_colon := List.forall_mem_nil _

/-- A line of its own for every item and member, and a blank after every colon. -/
def lines : Spacing where
  line := newline
  colon := [' ']
  blank_line depth := by
    refine List.forall_mem_cons.mpr ⟨by decide, ?_⟩
    intro c mem
    rw [(List.mem_replicate.mp mem).2]
    decide
  blank_colon := List.forall_mem_singleton.mpr (by decide)

end Spacing

mutual

/-- The text of a document that stands at a depth. -/
def spaced (gaps : Spacing) (depth : Nat) : Json → List Char
  | .arr [] => ['[', ']']
  | .arr (item :: rest) =>
    '[' :: (gaps.line (depth + 1) ++ (spaced gaps (depth + 1) item ++ spacedItems gaps depth rest))
  | .obj [] => ['\x7b', '\x7d']
  | .obj ((name, value) :: rest) =>
    '\x7b' :: (gaps.line (depth + 1) ++ (quoteChars name.toList ++ ':' :: (gaps.colon ++
      (spaced gaps (depth + 1) value ++ spacedMembers gaps depth rest))))
  | .null => ['n', 'u', 'l', 'l']
  | .bool true => ['t', 'r', 'u', 'e']
  | .bool false => ['f', 'a', 'l', 's', 'e']
  | .num n => n.chars
  | .str s => quoteChars s.toList

/-- The items after the first, and the closing bracket. -/
def spacedItems (gaps : Spacing) (depth : Nat) : List Json → List Char
  | [] => gaps.line depth ++ [']']
  | item :: rest =>
    ',' :: (gaps.line (depth + 1) ++ (spaced gaps (depth + 1) item ++ spacedItems gaps depth rest))

/-- The members after the first, and the closing brace. -/
def spacedMembers (gaps : Spacing) (depth : Nat) : List (String × Json) → List Char
  | [] => gaps.line depth ++ ['\x7d']
  | (name, value) :: rest =>
    ',' :: (gaps.line (depth + 1) ++ (quoteChars name.toList ++ ':' :: (gaps.colon ++
      (spaced gaps (depth + 1) value ++ spacedMembers gaps depth rest))))

end

/-! ## The two texts -/

mutual

/-- The compact text is the one without blanks. -/
theorem spaced_tight (depth : Nat) : ∀ v, spaced .tight depth v = compactChars v
  | .null => rfl
  | .bool true => rfl
  | .bool false => rfl
  | .num _ => rfl
  | .str _ => rfl
  | .arr [] => rfl
  | .arr (item :: rest) => by
    rw [spaced, compactChars, spaced_tight (depth + 1) item, spacedItems_tight depth rest]
    rfl
  | .obj [] => rfl
  | .obj ((name, value) :: rest) => by
    rw [spaced, compactChars, spaced_tight (depth + 1) value, spacedMembers_tight depth rest]
    rfl

theorem spacedItems_tight (depth : Nat) :
    ∀ items, spacedItems .tight depth items = compactItems items
  | [] => rfl
  | item :: rest => by
    rw [spacedItems, compactItems, spaced_tight (depth + 1) item, spacedItems_tight depth rest]
    rfl

theorem spacedMembers_tight (depth : Nat) :
    ∀ members, spacedMembers .tight depth members = compactMembers members
  | [] => rfl
  | (name, value) :: rest => by
    rw [spacedMembers, compactMembers, spaced_tight (depth + 1) value,
      spacedMembers_tight depth rest]
    rfl

end

mutual

/-- The indented text is the one on lines. -/
theorem spaced_lines (depth : Nat) : ∀ v, spaced .lines depth v = prettyChars depth v
  | .null => rfl
  | .bool true => rfl
  | .bool false => rfl
  | .num _ => rfl
  | .str _ => rfl
  | .arr [] => rfl
  | .arr (item :: rest) => by
    rw [spaced, prettyChars, spaced_lines (depth + 1) item, spacedItems_lines depth rest,
      List.append_assoc]
    rfl
  | .obj [] => rfl
  | .obj ((name, value) :: rest) => by
    rw [spaced, prettyChars, spaced_lines (depth + 1) value, spacedMembers_lines depth rest,
      List.append_assoc]
    rfl

theorem spacedItems_lines (depth : Nat) :
    ∀ items, spacedItems .lines depth items = prettyItems depth items
  | [] => rfl
  | item :: rest => by
    rw [spacedItems, prettyItems, spaced_lines (depth + 1) item, spacedItems_lines depth rest,
      List.append_assoc]
    rfl

theorem spacedMembers_lines (depth : Nat) :
    ∀ members, spacedMembers .lines depth members = prettyMembers depth members
  | [] => rfl
  | (name, value) :: rest => by
    rw [spacedMembers, prettyMembers, spaced_lines (depth + 1) value,
      spacedMembers_lines depth rest, List.append_assoc]
    rfl

end

/-! ## What follows a number -/

theorem endsNumber_cons {c : Char} (digit : Decimal.isDigit c = false)
    (others : c ≠ '.' ∧ c ≠ 'e' ∧ c ≠ 'E') (cs : List Char) : EndsNumber (c :: cs) := by
  refine ⟨Decimal.endsDigits_cons digit cs, ?_⟩
  intro c' after same
  rw [← (List.cons.inj same).1]
  exact others

theorem endsNumber_nil : EndsNumber [] := by
  constructor
  · intro c after same
    cases same
  · intro c after same
    cases same

/-- A number ends before blanks, as it does before what follows them. -/
theorem endsNumber_append {gap cs : List Char} (blank : ∀ c ∈ gap, isBlank c = true)
    (ends : EndsNumber cs) : EndsNumber (gap ++ cs) := by
  cases gap with
  | nil => exact ends
  | cons c gap =>
    have first := blank c List.mem_cons_self
    simp only [isBlank, Bool.or_eq_true, beq_iff_eq] at first
    rcases first with ((rfl | rfl) | rfl) | rfl <;>
      exact endsNumber_cons (by decide) (by decide) _

section
variable (gaps : Spacing) (depth : Nat)

/-- After an item comes a comma, or the closing bracket on a line of its own. -/
theorem endsNumber_spacedItems (items : List Json) (rest : List Char) :
    EndsNumber (spacedItems gaps depth items ++ rest) := by
  cases items with
  | nil =>
    rw [spacedItems, List.append_assoc]
    exact endsNumber_append (gaps.blank_line depth) (endsNumber_cons (by decide) (by decide) rest)
  | cons item items => exact endsNumber_cons (by decide) (by decide) _

theorem endsNumber_spacedMembers (members : List (String × Json)) (rest : List Char) :
    EndsNumber (spacedMembers gaps depth members ++ rest) := by
  cases members with
  | nil =>
    rw [spacedMembers, List.append_assoc]
    exact endsNumber_append (gaps.blank_line depth) (endsNumber_cons (by decide) (by decide) rest)
  | cons m members => exact endsNumber_cons (by decide) (by decide) _

theorem length_lt_spacedItems (items : List Json) :
    items.length < (spacedItems gaps depth items).length := by
  induction items with
  | nil => simp [spacedItems]
  | cons item items ih =>
    simp only [spacedItems, List.length_cons, List.length_append]
    omega

theorem length_lt_spacedMembers (members : List (String × Json)) :
    members.length < (spacedMembers gaps depth members).length := by
  induction members with
  | nil => simp [spacedMembers]
  | cons m members ih =>
    simp only [spacedMembers, List.length_cons, List.length_append]
    omega

end

theorem endsNumber_compactMembers (members : List (String × Json)) (rest : List Char) :
    EndsNumber (compactMembers members ++ rest) :=
  spacedMembers_tight 0 members ▸ endsNumber_spacedMembers .tight 0 members rest

theorem length_lt_compactMembers (members : List (String × Json)) :
    members.length < (compactMembers members).length :=
  spacedMembers_tight 0 members ▸ length_lt_spacedMembers .tight 0 members

end Assay.Json
