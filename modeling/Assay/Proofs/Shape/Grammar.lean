import Assay.Shape.Parser

/-!
# The grammar of shapes

`Derives` is the grammar on its own: a name, and after a name that takes items perhaps the text of
their shape in square brackets. Main statement: the reader accepts exactly the texts that the
grammar derives, each with the tree of its derivation.

A name is a maximal run of letters, so the reader needs to know of what follows a text only that it
is neither a letter nor an opening bracket (`Ends`). Soundness follows the fuel of the reader,
completeness the derivation.
-/

namespace Assay.Shape

/-- A text and the shape that it spells. -/
inductive Derives : String → Shape → Prop
  | str : Derives "str" .str
  | list {name} (named : name = "list" ∨ name = "List") : Derives name (.list none)
  | listOf {name items item} (named : name = "list" ∨ name = "List") (inner : Derives items item) :
      Derives (name ++ "[" ++ items ++ "]") (.list (some item))
  | set {name} (named : name = "set" ∨ name = "Set") : Derives name (.set none)
  | setOf {name items item} (named : name = "set" ∨ name = "Set") (inner : Derives items item) :
      Derives (name ++ "[" ++ items ++ "]") (.set (some item))

/-! ## Names -/

/-- The five names, told by what they stand for. -/
theorem nameOf_eq_some {letters : List Char} {name : Name} (h : nameOf letters = some name) :
    (name = .str ∧ String.ofList letters = "str") ∨
      (name = .list ∧ (String.ofList letters = "list" ∨ String.ofList letters = "List")) ∨
      (name = .set ∧ (String.ofList letters = "set" ∨ String.ofList letters = "Set")) := by
  unfold nameOf at h
  split at h
  · next same =>
    cases h
    exact .inl ⟨rfl, congrArg String.ofList same⟩
  split at h
  · next same =>
    cases h
    exact .inr (.inl ⟨rfl, same.imp (congrArg String.ofList) (congrArg String.ofList)⟩)
  split at h
  · next same =>
    cases h
    exact .inr (.inr ⟨rfl, same.imp (congrArg String.ofList) (congrArg String.ofList)⟩)
  · cases h

theorem nameOf_list {name : String} (h : name = "list" ∨ name = "List") :
    nameOf name.toList = some .list := by
  rcases h with rfl | rfl <;> decide

theorem nameOf_set {name : String} (h : name = "set" ∨ name = "Set") :
    nameOf name.toList = some .set := by
  rcases h with rfl | rfl <;> decide

/-- A name is not empty, and all of it are letters. -/
theorem letters_of_nameOf {letters : List Char} {name : Name} (h : nameOf letters = some name) :
    letters ≠ [] ∧ ∀ c ∈ letters, isLetter c = true := by
  rw [← String.toList_ofList (l := letters)]
  rcases nameOf_eq_some h with ⟨-, spelled⟩ | ⟨-, spelled | spelled⟩ | ⟨-, spelled | spelled⟩ <;>
    rw [spelled] <;> exact ⟨by decide, List.all_eq_true.mp rfl⟩

/-- A name without items that stands for a shape derives it. -/
theorem derives_of_name {letters : List Char} {name : Name} {shape : Shape}
    (named : nameOf letters = some name) (made : ofName name none = some shape) :
    Derives (String.ofList letters) shape := by
  rcases nameOf_eq_some named with ⟨rfl, spelled⟩ | ⟨rfl, spelled⟩ | ⟨rfl, spelled⟩
  · cases made
    rw [spelled]
    exact .str
  · cases made
    exact .list spelled
  · cases made
    exact .set spelled

/-- A name with items that stands for a shape derives it from a text of the items. -/
theorem derives_of_items {letters : List Char} {name : Name} {items : String} {item shape : Shape}
    (named : nameOf letters = some name) (made : ofName name (some item) = some shape)
    (inner : Derives items item) :
    Derives (String.ofList letters ++ "[" ++ items ++ "]") shape := by
  rcases nameOf_eq_some named with ⟨rfl, _⟩ | ⟨rfl, spelled⟩ | ⟨rfl, spelled⟩
  · -- a string takes no items
    cases made
  · cases made
    exact .listOf spelled inner
  · cases made
    exact .setOf spelled inner

/-! ## One step of the reader -/

/-- What may follow a shape in a text without being read with it. -/
def Ends (rest : List Char) : Prop :=
  ∀ c after, rest = c :: after → isLetter c = false ∧ c ≠ '['

/-- A run of letters that no letter follows is what the reader takes for a name. -/
theorem takeWhile_isLetter {letters rest : List Char} (inside : ∀ c ∈ letters, isLetter c = true)
    (outside : ∀ c after, rest = c :: after → isLetter c = false) :
    (letters ++ rest).takeWhile isLetter = letters ∧
      (letters ++ rest).dropWhile isLetter = rest := by
  rw [List.takeWhile_append_of_pos inside, List.dropWhile_append_of_pos inside]
  cases rest with
  | nil => simp
  | cons c after => simp [outside c after rfl]

/-- What is read when reading succeeds: a name, alone or with a shape in brackets after it. -/
theorem readShape_eq_ok {fuel : Nat} {cs rest : List Char} {shape : Shape}
    (read : readShape fuel cs = .ok (shape, rest)) :
    ∃ letters after name, cs = letters ++ after ∧ nameOf letters = some name ∧
      ((ofName name none = some shape ∧ rest = after) ∨
        ∃ n inner item, fuel = n + 1 ∧ after = '[' :: inner ∧
          readShape n inner = .ok (item, ']' :: rest) ∧ ofName name (some item) = some shape) := by
  unfold readShape at read
  have parts : cs = cs.takeWhile isLetter ++ cs.dropWhile isLetter :=
    List.takeWhile_append_dropWhile.symm
  generalize cs.takeWhile isLetter = letters at read parts
  generalize cs.dropWhile isLetter = after at read parts
  split at read
  · cases read
  split at read
  · cases read
  · cases read
  · next inner n named =>
    -- a bracket follows the name, and what it encloses is read with less fuel
    cases reads : readShape n inner with
    | error stop =>
      rw [reads] at read
      cases read
    | ok got =>
      obtain ⟨item, after⟩ := got
      rw [reads] at read
      simp only [bind, Except.bind] at read
      split at read
      · split at read
        · next made =>
          cases read
          exact ⟨_, _, _, parts, named, .inr ⟨n, inner, item, rfl, rfl, reads, made⟩⟩
        · cases read
      · cases read
  · next named _ _ =>
    split at read
    · next made =>
      cases read
      exact ⟨_, _, _, parts, named, .inl ⟨made, rfl⟩⟩
    · cases read

/-- A name that takes no items is read up to what ends it. -/
theorem readShape_name {letters rest : List Char} {name : Name} {shape : Shape}
    (named : nameOf letters = some name) (made : ofName name none = some shape) (ends : Ends rest)
    (fuel : Nat) : readShape fuel (letters ++ rest) = .ok (shape, rest) := by
  obtain ⟨nonempty, inside⟩ := letters_of_nameOf named
  obtain ⟨taken, left⟩ := takeWhile_isLetter inside fun c after same => (ends c after same).1
  unfold readShape
  rw [taken, left]
  split
  · exact absurd rfl nonempty
  split
  · next unnamed =>
    rw [named] at unnamed
    cases unnamed
  · exact absurd rfl (ends _ _ rfl).2
  · exact absurd rfl (ends _ _ rfl).2
  · next again _ _ =>
    cases named.symm.trans again
    simp only [made]

/-- A name and a shape in brackets are read up to the closing bracket. -/
theorem readShape_items {letters inner rest : List Char} {name : Name} {item shape : Shape}
    {fuel : Nat} (named : nameOf letters = some name)
    (made : ofName name (some item) = some shape)
    (read : readShape fuel inner = .ok (item, ']' :: rest)) :
    readShape (fuel + 1) (letters ++ '[' :: inner) = .ok (shape, rest) := by
  obtain ⟨nonempty, inside⟩ := letters_of_nameOf named
  have outside : ∀ c after, '[' :: inner = c :: after → isLetter c = false := by
    intro c after same
    rw [← (List.cons.inj same).1]
    decide
  obtain ⟨taken, left⟩ := takeWhile_isLetter inside outside
  unfold readShape
  rw [taken, left]
  split
  · exact absurd rfl nonempty
  · simp only [named, read, bind, Except.bind, made]

/-! ## Whole texts -/

/-- What is read is derived by the grammar. -/
theorem derives_of_readShape {fuel : Nat} {cs rest : List Char} {shape : Shape}
    (read : readShape fuel cs = .ok (shape, rest)) :
    ∃ text, Derives text shape ∧ cs = text.toList ++ rest := by
  -- each pair of brackets takes one unit of fuel
  induction fuel generalizing cs rest shape with
  | zero =>
    obtain ⟨letters, after, name, rfl, named, ⟨made, rfl⟩ | ⟨n, _, _, none, _⟩⟩ :=
      readShape_eq_ok read
    · exact ⟨_, derives_of_name named made, by simp⟩
    · cases none
  | succ fuel ih =>
    obtain ⟨letters, after, name, rfl, named,
      ⟨made, rfl⟩ | ⟨n, inner, item, same, rfl, reads, made⟩⟩ := readShape_eq_ok read
    · exact ⟨_, derives_of_name named made, by simp⟩
    · cases same
      obtain ⟨items, derived, rfl⟩ := ih reads
      exact ⟨_, derives_of_items named made derived, by simp⟩

/-- Brackets are read with one unit of fuel less than the name before them. What they enclose is
shorter than the whole by more than that. -/
theorem readShape_bracketed {name items : String} {kind : Name} {item shape : Shape}
    (named : nameOf name.toList = some kind) (made : ofName kind (some item) = some shape)
    (read : ∀ {fuel : Nat}, items.length ≤ fuel → ∀ {rest : List Char}, Ends rest →
      readShape fuel (items.toList ++ rest) = .ok (item, rest))
    {fuel : Nat} (room : (name ++ "[" ++ items ++ "]").length ≤ fuel) (rest : List Char) :
    readShape fuel ((name ++ "[" ++ items ++ "]").toList ++ rest) = .ok (shape, rest) := by
  have closing : Ends (']' :: rest) := by
    intro c after same
    rw [← (List.cons.inj same).1]
    decide
  have one : "[".length = 1 := rfl
  simp only [String.length_append, one] at room
  obtain ⟨n, rfl⟩ : ∃ n, fuel = n + 1 := ⟨fuel - 1, by omega⟩
  have text : (name ++ "[" ++ items ++ "]").toList ++ rest =
      name.toList ++ '[' :: (items.toList ++ ']' :: rest) := by simp
  rw [text]
  exact readShape_items named made (read (by omega) closing)

/-- A text of the grammar is read whole, if there is a unit of fuel for each of its characters. -/
theorem Derives.readShape {text : String} {shape : Shape} (h : Derives text shape) {fuel : Nat}
    (room : text.length ≤ fuel) {rest : List Char} (ends : Ends rest) :
    readShape fuel (text.toList ++ rest) = .ok (shape, rest) := by
  induction h generalizing fuel rest with
  | str =>
    have named : nameOf "str".toList = some .str := by decide
    exact readShape_name named rfl ends fuel
  | list named => exact readShape_name (nameOf_list named) rfl ends fuel
  | listOf named _ ih => exact readShape_bracketed (nameOf_list named) rfl ih room rest
  | set named => exact readShape_name (nameOf_set named) rfl ends fuel
  | setOf named _ ih => exact readShape_bracketed (nameOf_set named) rfl ih room rest

/-- The reader accepts exactly the texts of the grammar, with the shapes that they spell. -/
theorem parse_eq_ok_iff (text : String) (shape : Shape) :
    parse text = .ok shape ↔ Derives text shape := by
  constructor
  · intro parsed
    unfold parse at parsed
    split at parsed
    · next read =>
      cases parsed
      obtain ⟨derived, derives, same⟩ := derives_of_readShape read
      rw [List.append_nil, String.toList_inj] at same
      exact same ▸ derives
    · cases parsed
    · cases parsed
  · intro derives
    have ends : Ends [] := by
      intro c after same
      cases same
    have read := derives.readShape (Nat.le_refl _) ends
    rw [List.append_nil] at read
    unfold parse
    rw [String.length_toList, read]

end Assay.Shape
