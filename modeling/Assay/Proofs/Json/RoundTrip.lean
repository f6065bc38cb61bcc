import Assay.Proofs.Json.Leading
import Assay.Proofs.Json.Members
import Assay.Proofs.Json.Numbers
import Assay.Proofs.Json.Records
import Mathlib.Algebra.Group.Int.Defs

/-!
# Compact and indented text is read back

Main statement: a document whose numbers are read back one by one and which nests no deeper than the
reader allows is read back from its text as it is stored, and therefore as it is when the names of
its objects ascend. It is the same document whether the text is compact or indented.

The reader of lists and the reader of objects are treated for any reader of what is in them, so the
induction over the document needs only one step at each.
-/

namespace Assay.Json

/-- The numbers that the reader keeps as integers. -/
def Number.IsWord : Number → Prop
  | .int i => -2 ^ 63 ≤ i ∧ i < 2 ^ 64
  | .float _ => False

theorem Number.IsWord.finite {n : Number} (h : n.IsWord) : n.IsFinite := by
  cases n with
  | int i => exact trivial
  | float x => exact h.elim

theorem finite_of_isWord {v : Json} (h : Numbers Number.IsWord v) : Numbers Number.IsFinite v :=
  h.imp fun _ => Number.IsWord.finite

/-! ## Lists -/

section
variable {gap : List Char} (blank : ∀ c ∈ gap, isBlank c = true)
include blank

theorem nextItem_close (first : Bool) (rest : List Char) :
    nextItem first (gap ++ ']' :: rest) = .ok (.inl rest) := by
  rw [nextItem.eq_def, skipBlanks_append blank]
  rfl

/-- A list goes on with an item where the text of a document stands. -/
theorem nextItem_spaced (gaps : Spacing) (depth : Nat) {v : Json}
    (finite : Numbers Number.IsFinite v) (rest : List Char) :
    nextItem true (gap ++ (spaced gaps depth v ++ rest)) =
        .ok (.inr (spaced gaps depth v ++ rest)) ∧
      nextItem false (',' :: (gap ++ (spaced gaps depth v ++ rest))) =
        .ok (.inr (spaced gaps depth v ++ rest)) := by
  obtain ⟨c, cs, written, begins⟩ := exists_lead_spaced gaps depth finite
  obtain ⟨solid, close⟩ := of_leadOf begins
  have comma : skipBlanks (',' :: (gap ++ c :: (cs ++ rest))) = ',' :: (gap ++ c :: (cs ++ rest)) :=
    rfl
  rw [written, List.cons_append]
  constructor
  · rw [nextItem.eq_def, skipBlanks_append blank, skipBlanks_cons solid]
    split
    · next none => cases none
    · next same => exact absurd (List.cons.inj same).1 close
    · rfl
    · next no _ => cases no
    · next no _ _ _ => cases no
  · simp only [nextItem, comma, skipBlanks_append blank, skipBlanks_cons solid]
    split
    · next none => cases none
    · next same => exact absurd (List.cons.inj same).1 close
    · rfl

end

section
variable {gaps : Spacing} {depth : Nat} {item : List Char → Except Fault (β × List Char)}
  {kept : Json → β} {items : List Json} {members : List (String × Json)}

/-- If every item is read, the items after the first are read up to the closing bracket. -/
theorem listItems_spacedItems
    (finite : ∀ v ∈ items, Numbers Number.IsFinite v)
    (reads : ∀ v ∈ items, ∀ {rest}, EndsNumber rest →
      item (spaced gaps (depth + 1) v ++ rest) = .ok (kept v, rest))
    {bound : List Char} (room : items.length < bound.length) (rest : List Char) :
    listItems item bound false (spacedItems gaps depth items ++ rest) =
      .ok (items.map kept, rest) := by
  -- every item takes one round, and the bracket takes the last one
  induction items generalizing bound with
  | nil =>
    obtain ⟨b, bound, rfl⟩ := List.exists_cons_of_length_pos room
    rw [spacedItems, List.append_assoc, List.singleton_append, listItems,
      nextItem_close (gaps.blank_line depth)]
    rfl
  | cons v items ih =>
    obtain ⟨b, bound, rfl⟩ := List.exists_cons_of_length_pos (Nat.zero_lt_of_lt room)
    obtain ⟨number, numbers⟩ := List.forall_mem_cons.mp finite
    obtain ⟨first, others⟩ := List.forall_mem_cons.mp reads
    have again := ih numbers others (by simpa using room)
    have next := (nextItem_spaced (gaps.blank_line (depth + 1)) gaps (depth + 1) number
      (spacedItems gaps depth items ++ rest)).2
    rw [spacedItems, List.cons_append, List.append_assoc, List.append_assoc]
    simp only [listItems, next, first (endsNumber_spacedItems gaps depth items rest), again, bind,
      Except.bind, List.map_cons]

variable (gaps depth item) in
/-- If every item is read, the text of a list is read after its opening bracket. -/
theorem listItems_spaced
    (finite : ∀ v ∈ items, Numbers Number.IsFinite v)
    (reads : ∀ v ∈ items, ∀ {rest}, EndsNumber rest →
      item (spaced gaps (depth + 1) v ++ rest) = .ok (kept v, rest)) (rest : List Char) :
    ∃ inner, spaced gaps depth (.arr items) ++ rest = '[' :: inner ∧
      listItems item ('[' :: inner) true inner = .ok (items.map kept, rest) := by
  cases items with
  | nil => exact ⟨_, rfl, rfl⟩
  | cons v items =>
    refine ⟨gaps.line (depth + 1) ++ (spaced gaps (depth + 1) v ++
      (spacedItems gaps depth items ++ rest)), ?_, ?_⟩
    · rw [spaced, List.cons_append, List.append_assoc, List.append_assoc]
    · obtain ⟨number, numbers⟩ := List.forall_mem_cons.mp finite
      obtain ⟨first, others⟩ := List.forall_mem_cons.mp reads
      have room : items.length < (gaps.line (depth + 1) ++ (spaced gaps (depth + 1) v ++
          (spacedItems gaps depth items ++ rest))).length := by
        have lt := length_lt_spacedItems gaps depth items
        simp only [List.length_append]
        omega
      have next := (nextItem_spaced (gaps.blank_line (depth + 1)) gaps (depth + 1) number
        (spacedItems gaps depth items ++ rest)).1
      have again := listItems_spacedItems numbers others room rest
      simp only [listItems, next, first (endsNumber_spacedItems gaps depth items rest), again, bind,
        Except.bind, List.map_cons]

/-! ## Objects -/

theorem nextName_close {gap : List Char} (blank : ∀ c ∈ gap, isBlank c = true) (first : Bool)
    (rest : List Char) : nextName first (gap ++ '\x7d' :: rest) = .ok (.inl rest) := by
  rw [nextName.eq_def, skipBlanks_append blank]
  cases first <;> rfl

/-- An object goes on with a member where a quoted name stands. -/
theorem nextName_quoted {gap : List Char} (blank : ∀ c ∈ gap, isBlank c = true)
    (name rest : List Char) :
    nextName true (gap ++ (quoteChars name ++ rest)) =
        .ok (.inr (name.flatMap escapeChar ++ '"' :: rest)) ∧
      nextName false (',' :: (gap ++ (quoteChars name ++ rest))) =
        .ok (.inr (name.flatMap escapeChar ++ '"' :: rest)) := by
  rw [quoteChars_append]
  constructor
  · rw [nextName.eq_def, skipBlanks_append blank]
    rfl
  · rw [nextName.eq_def, skipBlanks_cons (by decide)]
    simp only [skipBlanks_append blank, skipBlanks_cons (c := '"') (by decide)]

/-- Once a name is found, the member is read, and reading goes on after it. -/
theorem objectMembers_member {name : String} {read : β} {first : Bool} {cs text rest : List Char}
    (next : nextName first cs = .ok (.inr (name.toList.flatMap escapeChar ++ '"' :: ':' :: text)))
    (reads : item text = .ok (read, rest)) (b : Char) (bound : List Char) :
    objectMembers item (b :: bound) first cs = (do
      let (members, rest) ← objectMembers item bound false rest
      .ok ((name, read) :: members, rest)) := by
  have mark : colon (':' :: text) = .ok text := rfl
  simp only [objectMembers, next, bind, Except.bind, stringBody_escaped, mark, reads]

/-- If every value is read, the members after the first are read up to the closing brace. -/
theorem objectMembers_spacedMembers
    (reads : ∀ m ∈ members, ∀ {rest}, EndsNumber rest →
      item (gaps.colon ++ (spaced gaps (depth + 1) m.2 ++ rest)) = .ok (kept m.2, rest))
    {bound : List Char} (room : members.length < bound.length) (rest : List Char) :
    objectMembers item bound false (spacedMembers gaps depth members ++ rest) =
      .ok (members.map fun m => (m.1, kept m.2), rest) := by
  induction members generalizing bound with
  | nil =>
    obtain ⟨b, bound, rfl⟩ := List.exists_cons_of_length_pos room
    rw [spacedMembers, List.append_assoc, List.singleton_append, objectMembers,
      nextName_close (gaps.blank_line depth)]
    rfl
  | cons m members ih =>
    obtain ⟨name, v⟩ := m
    obtain ⟨b, bound, rfl⟩ := List.exists_cons_of_length_pos (Nat.zero_lt_of_lt room)
    obtain ⟨first, others⟩ := List.forall_mem_cons.mp reads
    have again := ih others (by simpa using room)
    have next := (nextName_quoted (gaps.blank_line (depth + 1)) name.toList
      (':' :: (gaps.colon ++ (spaced gaps (depth + 1) v ++
        (spacedMembers gaps depth members ++ rest))))).2
    rw [spacedMembers, List.cons_append, List.append_assoc, List.append_assoc, List.cons_append,
      List.append_assoc, List.append_assoc,
      objectMembers_member next (first (endsNumber_spacedMembers gaps depth members rest)), again]
    rfl

variable (gaps depth item) in
/-- If every value is read, the text of an object is read after its opening brace. -/
theorem objectMembers_spaced
    (reads : ∀ m ∈ members, ∀ {rest}, EndsNumber rest →
      item (gaps.colon ++ (spaced gaps (depth + 1) m.2 ++ rest)) = .ok (kept m.2, rest))
    (rest : List Char) :
    ∃ inner, spaced gaps depth (.obj members) ++ rest = '\x7b' :: inner ∧
      objectMembers item ('\x7b' :: inner) true inner =
        .ok (members.map fun m => (m.1, kept m.2), rest) := by
  cases members with
  | nil => exact ⟨_, rfl, rfl⟩
  | cons m members =>
    obtain ⟨name, v⟩ := m
    refine ⟨gaps.line (depth + 1) ++ (quoteChars name.toList ++ ':' :: (gaps.colon ++
      (spaced gaps (depth + 1) v ++ (spacedMembers gaps depth members ++ rest)))), ?_, ?_⟩
    · rw [spaced, List.cons_append, List.append_assoc, List.append_assoc, List.cons_append,
        List.append_assoc, List.append_assoc]
    · obtain ⟨first, others⟩ := List.forall_mem_cons.mp reads
      have room : members.length < (gaps.line (depth + 1) ++ (quoteChars name.toList ++ ':' ::
          (gaps.colon ++ (spaced gaps (depth + 1) v ++
            (spacedMembers gaps depth members ++ rest))))).length := by
        have lt := length_lt_spacedMembers gaps depth members
        simp only [List.length_append, List.length_cons]
        omega
      have next := (nextName_quoted (gaps.blank_line (depth + 1)) name.toList
        (':' :: (gaps.colon ++ (spaced gaps (depth + 1) v ++
          (spacedMembers gaps depth members ++ rest))))).1
      have again := objectMembers_spacedMembers others room rest
      rw [objectMembers_member next (first (endsNumber_spacedMembers gaps depth members rest)),
        again]
      rfl

end

/-! ## Values by their first character -/

section
variable {d : Nat} {cs : List Char}

theorem value_quote : value d ('"' :: cs) = (do
    let (s, rest) ← stringBody cs
    .ok (.str s, rest)) := by
  unfold value
  rfl

theorem value_minus : value d ('-' :: cs) = (do
    let (n, rest) ← number true cs
    .ok (.num n, rest)) := by
  unfold value
  rfl

theorem value_bracket : value (d + 1) ('[' :: cs) = (do
    let (items, rest) ← listItems (value d) ('[' :: cs) true cs
    .ok (.arr items, rest)) := by
  unfold value
  rfl

theorem value_brace : value (d + 1) ('\x7b' :: cs) = (do
    let (members, rest) ← objectMembers (value d) ('\x7b' :: cs) true cs
    .ok (.obj (sortMembers members), rest)) := by
  unfold value
  rfl

theorem value_digit {c : Char} (digit : Decimal.isDigit c = true) : value d (c :: cs) = (do
    let (n, rest) ← number false (c :: cs)
    .ok (.num n, rest)) := by
  have leads {x : Char} {rest : List Char} (same : c :: cs = x :: rest) :
      Decimal.isDigit x = true := (List.cons.inj same).1 ▸ digit
  unfold value
  rw [skipBlanks_cons (of_isDigit digit).1]
  split
  · next none => cases none
  · next same => exact absurd (leads same) (by decide)
  · next same => exact absurd (leads same) (by decide)
  · next same => exact absurd (leads same) (by decide)
  · next same => exact absurd (leads same) (by decide)
  · next same => exact absurd (leads same) (by decide)
  · next same => exact absurd (leads same) (by decide)
  · next same => exact absurd (leads same) (by decide)
  · next same =>
    cases same
    rw [if_pos digit]

end

/-- Blanks before a value are passed over. -/
theorem value_append {gap : List Char} (blank : ∀ c ∈ gap, isBlank c = true) (d : Nat)
    (cs : List Char) : value d (gap ++ cs) = value d cs := by
  unfold value
  dsimp only
  rw [skipBlanks_append blank]

/-! ## Numbers -/

/-- The numbers that are read back when their text stands alone. -/
structure Number.Rereads (n : Number) : Prop where
  finite : n.IsFinite
  parses : parse n.chars = .ok (.num n)

/-- Whether a reader found a given floating-point number. -/
def foundFloat (x : Float) : Except Fault Json → Bool
  | .ok (.num (.float y)) => decide (y = x)
  | _ => false

theorem foundFloat_iff {x : Float} {found : Except Fault Json} :
    foundFloat x found = true ↔ found = .ok (.num (.float x)) := by
  unfold foundFloat
  split
  · simp
  · next other =>
    simp only [Bool.false_eq_true, false_iff]
    exact other x

/-- The value at the text of a finite number is the number that is read after its sign. -/
theorem value_numeral {n : Number} (finite : n.IsFinite) :
    ∃ negative cs, (∀ c ∈ cs, Decimal.isNumeral c = true) ∧
      ∀ d rest, value d (n.chars ++ rest) = (do
        let (n, rest) ← number negative (cs ++ rest)
        .ok (.num n, rest)) := by
  obtain ⟨sign, cs, minus, ⟨c, cs, rfl, digit, inside⟩, written⟩ := n.chars_eq finite
  have all : ∀ x ∈ c :: cs, Decimal.isNumeral x = true :=
    List.forall_mem_cons.mpr ⟨Decimal.isNumeral_of_isDigit digit, inside⟩
  rw [written]
  rcases minus with rfl | rfl
  · exact ⟨false, c :: cs, all, fun d rest => value_digit digit⟩
  · exact ⟨true, c :: cs, all, fun d rest => value_minus⟩

/-- A number that is read back when its text stands alone is read back wherever the text stands. -/
theorem value_number {n : Number} (h : n.Rereads) (d : Nat) {rest : List Char}
    (ends : EndsNumber rest) : value d (n.chars ++ rest) = .ok (.num n, rest) := by
  obtain ⟨negative, cs, numeral, reads⟩ := value_numeral h.finite
  have alone := h.parses
  have whole := reads depthLimit []
  rw [List.append_nil, List.append_nil] at whole
  rw [parse, readAll, whole] at alone
  cases found : number negative cs with
  | error fault =>
    rw [found] at alone
    cases alone
  | ok p =>
    obtain ⟨m, left⟩ := p
    rw [found] at alone
    obtain ⟨suffix, more⟩ := ofFront_number negative found
    -- what is left is a part of the numeral, and so it is nothing if it is blank
    have nothing : left = [] := by
      cases left with
      | nil => rfl
      | cons c left =>
        have solid := solid_of_all rfl (numeral c (suffix.subset List.mem_cons_self))
        have refused : finish (c :: left) = .error (past .trailingCharacters (c :: left)) := by
          rw [finish, skipBlanks_cons solid]
        simp only [bind, Except.bind, refused] at alone
        cases alone
    subst nothing
    have same : m = n := by
      cases alone
      rfl
    rw [reads, more ends, same]
    rfl

/-- An integer of 64 bits is read back. -/
theorem value_int {i : Int} (word : -2 ^ 63 ≤ i ∧ i < 2 ^ 64) (d : Nat) {rest : List Char}
    (ends : EndsNumber rest) :
    value d (compactChars (.num (.int i)) ++ rest) = .ok (.num (.int i), rest) := by
  have limit : significandLimit = 2 ^ 64 := rfl
  cases i with
  | ofNat n =>
    have high : (n : Int) < 2 ^ 64 := word.2
    have reads := number_digits (n := n) (by omega) ends
    obtain ⟨c, cs, written, digit, -⟩ := Decimal.numeral_digits n
    show value d (Decimal.digits n ++ rest) = _
    rw [written, List.cons_append] at reads ⊢
    rw [value_digit digit, reads]
    rfl
  | negSucc n =>
    have reads := number_digits_negative (n := n + 1) (Nat.succ_pos n) (by omega) ends
    show value d ('-' :: (Decimal.digits (n + 1) ++ rest)) = _
    rw [value_minus, reads]
    rfl

theorem Number.IsWord.rereads {n : Number} (h : n.IsWord) : n.Rereads := by
  cases n with
  | int i =>
    refine ⟨trivial, ?_⟩
    have reads := value_int h depthLimit endsNumber_nil
    rw [List.append_nil] at reads
    show readAll (value depthLimit) (compactChars (.num (.int i))) = _
    rw [readAll, reads]
    rfl
  | float x => exact h.elim

/-! ## Whole documents -/

/-- A document is read back from its text as it is stored. -/
theorem value_spaced {v : Json} (numbers : v.Everywhere (Numbers Number.Rereads))
    (gaps : Spacing) (depth : Nat) {d : Nat} (shallow : v.depth ≤ d) {rest : List Char}
    (ends : EndsNumber rest) :
    value d (spaced gaps depth v ++ rest) = .ok (v.stored, rest) := by
  induction v generalizing depth d rest with
  | null =>
    unfold value
    rfl
  | bool b =>
    unfold value
    cases b <;> rfl
  | num n => exact value_number numbers d ends
  | str s =>
    rw [spaced, quoteChars_append, value_quote, stringBody_escaped]
    rfl
  | arr items ih =>
    -- a bracket takes one level of depth, and so leaves enough for every item
    have some : d ≠ 0 := by
      rw [Json.depth] at shallow
      omega
    obtain ⟨d, rfl⟩ := Nat.exists_eq_succ_of_ne_zero some
    have inside := (everywhere_arr.mp numbers).2
    have low := depth_arr_le.mp shallow
    obtain ⟨inner, written, reads⟩ := listItems_spaced gaps depth (value d)
      (fun v mem => (inside v mem).self.imp fun _ => Number.Rereads.finite)
      (fun v mem _ ends => ih v mem (inside v mem) (depth + 1) (low v mem) ends) rest
    rw [written, value_bracket, reads, stored, storedIn_eq]
    rfl
  | obj members ih =>
    have some : d ≠ 0 := by
      rw [Json.depth] at shallow
      omega
    obtain ⟨d, rfl⟩ := Nat.exists_eq_succ_of_ne_zero some
    have inside := (everywhere_obj.mp numbers).2
    have low := depth_obj_le.mp shallow
    obtain ⟨inner, written, reads⟩ := objectMembers_spaced gaps depth (value d)
      (fun m mem _ ends => by
        rw [value_append gaps.blank_colon]
        exact ih m mem (inside m mem) (depth + 1) (low m mem) ends) rest
    rw [written, value_brace, reads, stored, storedUnder_eq]
    rfl

/-- A text of a document is a text of what is stored of it, whatever blanks it is written with. -/
theorem parse_spaced {v : Json} (numbers : v.Everywhere (Numbers Number.Rereads))
    (shallow : v.depth ≤ depthLimit) (gaps : Spacing) :
    parse (spaced gaps 0 v) = .ok v.stored := by
  have reads := value_spaced numbers gaps 0 shallow endsNumber_nil
  rw [List.append_nil] at reads
  rw [parse, readAll, reads]
  rfl

/-- The compact text of a document is a text of what is stored of it. -/
theorem parse_compactChars {v : Json} (words : v.Everywhere (Numbers Number.IsWord))
    (shallow : v.depth ≤ depthLimit) : parse (compactChars v) = .ok v.stored := by
  have numbers : v.Everywhere (Numbers Number.Rereads) :=
    words.imp fun _ h => h.imp fun _ => Number.IsWord.rereads
  rw [← spaced_tight 0]
  exact parse_spaced numbers shallow .tight

/-- A document whose names ascend is read back from its compact text as it is. -/
theorem ofText_compact {v : Json} (numbers : v.Everywhere (Numbers Number.Rereads))
    (ascend : v.Everywhere NamesAscend) (shallow : v.depth ≤ depthLimit) :
    ofText v.compact = .ok v := by
  have parses := parse_spaced numbers shallow .tight
  rw [spaced_tight, stored_of_namesAscend ascend] at parses
  rw [ofText, compact, String.toList_ofList, parses]
  rfl

end Assay.Json
