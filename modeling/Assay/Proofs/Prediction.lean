import Assay.Prediction
import Assay.Proofs.Json.RoundTrip
import Mathlib.Data.List.Forall2

/-!
# Predictions in any quotes

Main statement: a document that holds no apostrophe is read back from its compact text when any of
the double quotes in that text are written as apostrophes, the escaped ones inside strings with
those around them. Straightening the quotes undoes that, because there is no apostrophe in the
compact text that it could change by mistake.
-/

namespace Assay

/-- A text in which some of the double quotes of another one are written as apostrophes. -/
def Requoted (text raw : List Char) : Prop :=
  List.Forall₂ (fun c d => d = c ∨ (c = '"' ∧ d = '\'')) text raw

theorem straightenQuotes_of_requoted {text raw : List Char} (h : Requoted text raw)
    (none : '\'' ∉ text) : straightenQuotes raw = text := by
  induction h with
  | nil => rfl
  | @cons c d text raw same _ ih =>
    have straight : (if d = '\'' then '"' else d) = c := by
      rcases same with rfl | ⟨rfl, rfl⟩
      · exact if_neg (Ne.symm (List.ne_of_not_mem_cons none))
      · rfl
    rw [straightenQuotes, List.map_cons, straight]
    exact congrArg (c :: ·) (ih (List.not_mem_of_not_mem_cons none))

/-! ## Texts without apostrophes -/

namespace Json

/-- What is a string has no apostrophe, and the names of an object have none. -/
def NoApostrophe : Json → Prop
  | .str s => '\'' ∉ s.toList
  | .obj members => ∀ m ∈ members, '\'' ∉ m.1.toList
  | _ => True

theorem noApostrophe_quoteChars {s : List Char} (none : '\'' ∉ s) : '\'' ∉ quoteChars s := by
  intro mem
  simp only [quoteChars, List.mem_cons, List.mem_append, List.mem_flatMap, List.not_mem_nil,
    or_false] at mem
  rcases mem with quote | ⟨c, inside, mem⟩ | quote
  · exact absurd quote (by decide)
  · rcases mem_escapeChar mem with letter | ⟨rfl, -⟩
    · exact absurd letter (by decide)
    · exact none inside
  · exact absurd quote (by decide)

theorem noApostrophe_numeral {cs : List Char} (h : Decimal.Numeral cs) : '\'' ∉ cs := by
  obtain ⟨d, rest, rfl, digit, inside⟩ := h
  intro mem
  rcases List.mem_cons.mp mem with rfl | mem
  · exact absurd digit (by decide)
  · exact absurd (inside _ mem) (by decide)

theorem noApostrophe_compactItems {items : List Json} (none : ∀ v ∈ items, '\'' ∉ compactChars v) :
    '\'' ∉ compactItems items := by
  induction items with
  | nil => decide
  | cons v items ih =>
    obtain ⟨first, others⟩ := List.forall_mem_cons.mp none
    have rest := ih others
    simp [compactItems, first, rest]

theorem noApostrophe_compactMembers {members : List (String × Json)}
    (names : ∀ m ∈ members, '\'' ∉ m.1.toList) (none : ∀ m ∈ members, '\'' ∉ compactChars m.2) :
    '\'' ∉ compactMembers members := by
  induction members with
  | nil => decide
  | cons m members ih =>
    obtain ⟨name, v⟩ := m
    obtain ⟨named, names⟩ := List.forall_mem_cons.mp names
    obtain ⟨first, others⟩ := List.forall_mem_cons.mp none
    have rest := ih names others
    simp [compactMembers, noApostrophe_quoteChars named, first, rest]

/-- The first item of a list is written as the others are, with the bracket for the comma. -/
theorem compactChars_arr_cons (v : Json) (items : List Json) :
    compactChars (.arr (v :: items)) = '[' :: (compactItems (v :: items)).tail := rfl

/-- The first member of an object is written as the others are, with the brace for the comma. -/
theorem compactChars_obj_cons (m : String × Json) (members : List (String × Json)) :
    compactChars (.obj (m :: members)) = '\x7b' :: (compactMembers (m :: members)).tail := rfl

/-- The compact text of a document without apostrophes has none. -/
theorem noApostrophe_compactChars {v : Json} (none : v.Everywhere NoApostrophe)
    (finite : v.Everywhere (Numbers Number.IsFinite)) : '\'' ∉ compactChars v := by
  induction v with
  | null => decide
  | bool b => cases b <;> decide
  | num n =>
    obtain ⟨sign, cs, minus, numeral, written⟩ := n.chars_eq finite
    have digits := noApostrophe_numeral numeral
    rw [compactChars, written]
    rcases minus with rfl | rfl
    · exact digits
    · simp [digits]
  | str s => exact noApostrophe_quoteChars none
  | arr items ih =>
    have inside := (everywhere_arr.mp none).2
    have numbers := (everywhere_arr.mp finite).2
    have rest := noApostrophe_compactItems fun v mem => ih v mem (inside v mem) (numbers v mem)
    cases items with
    | nil => decide
    | cons v items =>
      rw [compactChars_arr_cons]
      refine List.not_mem_cons_of_ne_of_not_mem (by decide) ?_
      exact fun mem => rest (List.mem_of_mem_tail mem)
  | obj members ih =>
    obtain ⟨names, inside⟩ := everywhere_obj.mp none
    have numbers := (everywhere_obj.mp finite).2
    have rest := noApostrophe_compactMembers names fun m mem =>
      ih m mem (inside m mem) (numbers m mem)
    cases members with
    | nil => decide
    | cons m members =>
      rw [compactChars_obj_cons]
      refine List.not_mem_cons_of_ne_of_not_mem (by decide) ?_
      exact fun mem => rest (List.mem_of_mem_tail mem)

end Json

/-! ## Reading predictions -/

/-- A document is read back from its compact text with any of the double quotes in it written as
apostrophes. -/
theorem readPrediction_requoted {v : Json} {raw : String}
    (ascend : v.Everywhere Json.NamesAscend)
    (words : v.Everywhere (Json.Numbers Json.Number.IsWord))
    (none : v.Everywhere Json.NoApostrophe) (shallow : v.depth ≤ 127)
    (quotes : Requoted v.compact.toList raw.toList) :
    readPrediction raw = .ok v ∧ predictionOf raw = v := by
  have finite := words.imp fun _ => Json.finite_of_isWord
  rw [Json.compact, String.toList_ofList] at quotes
  have straight := straightenQuotes_of_requoted quotes (Json.noApostrophe_compactChars none finite)
  have reads : readPrediction raw = .ok v := by
    unfold readPrediction
    simp only [straight, Json.parse_compactChars words shallow, Json.stored_of_namesAscend ascend]
    rfl
  exact ⟨reads, by rw [predictionOf, reads]⟩

/-- A document with quotes in a name and in a string, and with the integers at both ends. -/
def quotedDocument : Json :=
  .obj [("k\"", .arr [.num (.int (-2 ^ 63)), .num (.int (2 ^ 64 - 1)), .str "a\"b\n", .null]),
    ("z", .obj [])]

/-- Its compact text with five quotes written as apostrophes, two of them escaped ones. -/
def requotedText : String :=
  "\x7b'k\\'\":[-9223372036854775808,18446744073709551615," ++
    "\"a\\'b\\n',null],'z\":\x7b\x7d\x7d"

theorem readPrediction_requoted_escaped :
    readPrediction requotedText = .ok quotedDocument ∧
      predictionOf requotedText = quotedDocument := by
  refine readPrediction_requoted ?_ ?_ ?_ ?_ ?_
  · refine Json.everywhere_obj.mpr ⟨?_, ?_⟩
    · show List.Pairwise _ _
      decide
    · simp [Json.Everywhere, Json.EverywhereIn, Json.EverywhereUnder, Json.NamesAscend,
        Json.Ascending]
  · simp [quotedDocument, Json.Everywhere, Json.EverywhereIn, Json.EverywhereUnder, Json.Numbers,
      Json.Number.IsWord]
  · simp [quotedDocument, Json.Everywhere, Json.EverywhereIn, Json.EverywhereUnder,
      Json.NoApostrophe]
  · decide
  · unfold Requoted
    decide +kernel

end Assay
