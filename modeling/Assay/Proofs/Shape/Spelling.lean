import Assay.Proofs.Shape.Grammar
import Assay.Proofs.Shape.Schema
import Mathlib.Data.List.SplitBy

/-!
# Canonical spellings

The names of lists and sets have two forms, of which the one with a capital is canonical. A word of
a text is a maximal run of letters; what is no letter stands for itself, so a text can be put into
canonical form word by word. Main statement: the canonical spelling of a shape is read as that
shape, and every text that is read as the shape has it as its canonical form.
-/

namespace Assay.Shape

/-! ## Words -/

/-- The words of a text: its maximal runs of letters, and every other character by itself. -/
def words (text : List Char) : List (List Char) :=
  text.splitBy fun a b => isLetter a && isLetter b

/-- A word in its canonical form: of the names with two forms it is the one with a capital. -/
def canonicalWord (word : List Char) : List Char :=
  if word = ['l', 'i', 's', 't'] then ['L', 'i', 's', 't']
  else if word = ['s', 'e', 't'] then ['S', 'e', 't']
  else word

/-- A text with each word in its canonical form. -/
def canonical (text : String) : String :=
  String.ofList ((words text.toList).flatMap canonicalWord)

/-- What is no letter divides a text into words. -/
theorem words_append_cons {c : Char} (other : isLetter c = false) (front back : List Char) :
    words (front ++ c :: back) = words front ++ [c] :: words back := by
  have before : ∀ x ∈ front.getLast?, (isLetter x && isLetter c) = false := by
    intro x _
    rw [other, Bool.and_false]
  have after : ∀ x ∈ [c].getLast?, ∀ y ∈ back.head?, (isLetter x && isLetter y) = false := by
    intro x last y _
    obtain rfl : c = x := by simpa using last
    rw [other, Bool.false_and]
  -- the character joins neither the run before it nor the one after it
  show List.splitBy _ (front ++ c :: back) = _
  rw [List.splitBy_append_cons back before]
  show _ ++ List.splitBy _ ([c] ++ back) = _
  rw [List.splitBy_append after]
  rfl

/-- A character that is no letter is kept where it stands. -/
theorem flatMap_canonicalWord {c : Char} (other : isLetter c = false) (front back : List Char) :
    (words (front ++ c :: back)).flatMap canonicalWord =
      (words front).flatMap canonicalWord ++ c :: (words back).flatMap canonicalWord := by
  have single : canonicalWord [c] = [c] := by simp [canonicalWord]
  rw [words_append_cons other, List.flatMap_append, List.flatMap_cons, single]
  rfl

/-- Names and items are put into canonical form apart from each other. -/
theorem canonical_bracketed (name items : String) :
    canonical (name ++ "[" ++ items ++ "]") =
      canonical name ++ "[" ++ canonical items ++ "]" := by
  have text : (name ++ "[" ++ items ++ "]").toList =
      name.toList ++ '[' :: (items.toList ++ ']' :: []) := by simp
  have none : words [] = [] := rfl
  apply String.toList_inj.mp
  simp only [canonical, text, String.toList_ofList, String.toList_append,
    flatMap_canonicalWord (show isLetter '[' = false by decide),
    flatMap_canonicalWord (show isLetter ']' = false by decide), none]
  simp

theorem canonical_list {name : String} (named : name = "list" ∨ name = "List") :
    canonical name = "List" := by
  rcases named with rfl | rfl <;> decide

theorem canonical_set {name : String} (named : name = "set" ∨ name = "Set") :
    canonical name = "Set" := by
  rcases named with rfl | rfl <;> decide

/-! ## Spellings -/

theorem spell_listOf (item : Shape) :
    spell (.list (some item)) = "List" ++ "[" ++ item.spell ++ "]" := by
  apply String.toList_inj.mp
  simp [spell, spellChars]

theorem spell_setOf (item : Shape) :
    spell (.set (some item)) = "Set" ++ "[" ++ item.spell ++ "]" := by
  apply String.toList_inj.mp
  simp [spell, spellChars]

/-- The grammar derives a shape from its canonical spelling. -/
theorem derives_spell (shape : Shape) : Derives shape.spell shape := by
  induction shape with
  | str => exact .str
  | list item ih =>
    cases item with
    | none => exact .list (.inr rfl)
    | some inner =>
      rw [spell_listOf]
      exact .listOf (.inr rfl) (ih inner rfl)
  | set item ih =>
    cases item with
    | none => exact .set (.inr rfl)
    | some inner =>
      rw [spell_setOf]
      exact .setOf (.inr rfl) (ih inner rfl)

/-- The canonical form of a text from which a shape is derived is the spelling of the shape. -/
theorem Derives.spell_eq {text : String} {shape : Shape} (h : Derives text shape) :
    shape.spell = canonical text := by
  induction h with
  | str => decide
  | list named => exact (canonical_list named).symm
  | listOf named _ ih => rw [spell_listOf, canonical_bracketed, canonical_list named, ih]
  | set named => exact (canonical_set named).symm
  | setOf named _ ih => rw [spell_setOf, canonical_bracketed, canonical_set named, ih]

/-! ## Reading and spelling -/

/-- A text is read as a shape when the reader takes all of it. -/
theorem parse_eq_ok_iff_readShape {text : String} {shape : Shape} :
    parse text = .ok shape ↔ readShape text.toList.length text.toList = .ok (shape, []) := by
  unfold parse
  split
  · next read =>
    rw [read]
    simp
  · next read =>
    rw [read]
    simp
  · next partly _ =>
    refine iff_of_false (by simp) ?_
    exact partly shape

theorem parse_spell (shape : Shape) : parse shape.spell = .ok shape := by
  have ends : Ends [] := by
    intro c after same
    cases same
  have read := (derives_spell shape).readShape (Nat.le_refl _) ends
  rw [List.append_nil] at read
  rw [parse_eq_ok_iff_readShape, String.length_toList]
  exact read

theorem derives_of_parse {text : String} {shape : Shape} (parsed : parse text = .ok shape) :
    Derives text shape := by
  obtain ⟨derived, derives, same⟩ := derives_of_readShape (parse_eq_ok_iff_readShape.mp parsed)
  rw [List.append_nil, String.toList_inj] at same
  exact same ▸ derives

theorem spell_injective : Function.Injective spell := by
  intro a b same
  have read : parse a.spell = .ok b := same ▸ parse_spell b
  exact Except.ok.inj ((parse_spell a).symm.trans read)

/-- **A shape has one canonical spelling.** It is read as the shape, so shapes that are spelled
alike are the same. A text that is read as the shape becomes this spelling when `list` and `set`
are written with a capital wherever they stand as a word, and nothing else is changed; what it
becomes is read as the same shape again. -/
theorem canonical_spelling :
    (∀ shape : Shape, parse shape.spell = .ok shape) ∧ Function.Injective spell ∧
      ∀ text shape, parse text = .ok shape →
        shape.spell = canonical text ∧ parse (canonical text) = .ok shape := by
  refine ⟨parse_spell, spell_injective, ?_⟩
  intro text shape parsed
  have same : shape.spell = canonical text := (derives_of_parse parsed).spell_eq
  exact ⟨same, same ▸ parse_spell shape⟩

/-- The canonical form of a text with both names in small letters. -/
theorem canonical_spelling_small :
    parse "list[set[str]]" = .ok (.list (some (.set (some .str)))) ∧
      spell (.list (some (.set (some .str)))) = canonical "list[set[str]]" ∧
      parse (canonical "list[set[str]]") = .ok (.list (some (.set (some .str)))) := by
  have parsed : parse "list[set[str]]" = .ok (.list (some (.set (some .str)))) := by decide
  exact ⟨parsed, canonical_spelling.2.2 _ _ parsed⟩

end Assay.Shape
