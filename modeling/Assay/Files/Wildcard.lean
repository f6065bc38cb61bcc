/-!
# Wildcard patterns

A pattern for one name: `?` stands for one character, `*` for any number of them, `[...]` for one
character of a set and `[!...]` for one that is not in it. A set lists characters and ranges. Two
stars stand for any number of directories, and must be a whole component of a pattern for paths.
All other characters stand for themselves; there is no escape but a set of one character.
-/

namespace Assay.Files

/-- Why a text is no pattern. -/
inductive PatternFault where
  | badRange
  | badWildcards
  | badRecursion
  deriving DecidableEq, Repr

/-- A fault of a pattern and the number of characters before it. -/
structure PatternError where
  fault : PatternFault
  position : Nat
  deriving DecidableEq, Repr

/-- The wording of a fault. -/
def PatternError.message (e : PatternError) : String :=
  "Pattern syntax error near position " ++ toString e.position ++ ": " ++
    match e.fault with
    | .badRange => "invalid range pattern"
    | .badWildcards => "wildcards are either regular `*` or recursive `**`"
    | .badRecursion => "recursive wildcards must form a single path component"

/-- A member of a set: a character or a range of them. -/
inductive Member where
  | one (c : Char)
  | range (first last : Char)
  deriving DecidableEq, Repr

/-- Whether a character is meant by a member of a set. -/
def Member.has (c : Char) : Member → Bool
  | .one d => c == d
  | .range first last => decide (first ≤ c ∧ c ≤ last)

/-- An element of a pattern. -/
inductive Token where
  | literal (c : Char)
  | anyChar
  | anySequence
  | anyDirectories
  | oneOf (set : List Member)
  | noneOf (set : List Member)
  deriving DecidableEq, Repr

/-- The elements of a pattern. -/
abbrev Pattern := List Token

namespace Pattern

/-! ## Reading -/

/-- The members of a set. -/
def members : List Char → List Member
  | a :: '-' :: b :: rest => .range a b :: members rest
  | a :: rest => .one a :: members rest
  | [] => []

/-- A set after its opening bracket: the element, the number of characters it takes, and the
characters after it. A bracket that comes first in a set is a member of it. -/
def readSet : List Char → Option (Token × Nat × List Char)
  | '!' :: first :: rest =>
    match rest.span (· ≠ ']') with
    | (inner, ']' :: after) => some (.noneOf (members (first :: inner)), inner.length + 3, after)
    | _ => none
  | '!' :: [] => none
  | first :: rest =>
    match rest.span (· ≠ ']') with
    | (inner, ']' :: after) => some (.oneOf (members (first :: inner)), inner.length + 2, after)
    | _ => none
  | [] => none

/-- Reads the elements of a pattern. `before` is the character before the place `position`; at
most `fuel` elements are read. -/
def read : Nat → Option Char → Nat → List Char → Except PatternError Pattern
  | 0, _, _, _ => .ok []
  | _ + 1, _, _, [] => .ok []
  | fuel + 1, _, position, '?' :: rest => do
    .ok (.anyChar :: (← read fuel (some '?') (position + 1) rest))
  | fuel + 1, before, position, '*' :: rest =>
    let count := (rest.takeWhile (· == '*')).length + 1
    let after := rest.dropWhile (· == '*')
    if 2 < count then .error ⟨.badWildcards, position + 2⟩
    else if count = 1 then do
      .ok (.anySequence :: (← read fuel (some '*') (position + 1) rest))
    else if before = none ∨ before = some '/' then
      match after with
      | [] => .ok [.anyDirectories]
      | '/' :: after => do
        .ok (.anyDirectories :: (← read fuel (some '/') (position + 3) after))
      | _ => .error ⟨.badRecursion, position + 2⟩
    else .error ⟨.badRecursion, position - 1⟩
  | fuel + 1, _, position, '[' :: rest =>
    match readSet rest with
    | some (token, count, after) => do
      .ok (token :: (← read fuel (some ']') (position + 1 + count) after))
    | none => .error ⟨.badRange, position⟩
  | fuel + 1, _, position, c :: rest => do
    .ok (.literal c :: (← read fuel (some c) (position + 1) rest))

/-- The elements of a pattern text. -/
def parse (text : List Char) : Except PatternError Pattern :=
  read text.length none 0 text

/-- A text in which every character stands for itself. -/
def escape (text : List Char) : List Char :=
  text.flatMap fun c => if c = '?' ∨ c = '*' ∨ c = '[' ∨ c = ']' then ['[', c, ']'] else [c]

end Pattern

/-! ## Matching -/

/-- Whether an element that stands for one character admits it. -/
def Token.admits (c : Char) : Token → Bool
  | .literal d => c == d
  | .anyChar => true
  | .oneOf set => set.any (Member.has c)
  | .noneOf set => !set.any (Member.has c)
  | .anySequence => false
  | .anyDirectories => false

/-- Whether an element stands for any number of characters. -/
def Token.isSequence : Token → Bool
  | .anySequence => true
  | .anyDirectories => true
  | _ => false

/-- What is left of a text after an element that stands for one character. -/
def Token.afterChar (token : Token) : List Char → Option (List Char)
  | [] => none
  | c :: rest => if token.admits c then some rest else none

/-- A text and everything it ends in, the longest first. -/
def endings : List Char → List (List Char)
  | [] => [[]]
  | c :: rest => (c :: rest) :: endings rest

/-- What may be left of a name after one more element, where one of `ends` is left before it. All
of them are endings of the first one, so a sequence leaves whatever the first one ends in. -/
def Token.after (ends : List (List Char)) (token : Token) : List (List Char) :=
  if token.isSequence then
    match ends with
    | [] => []
    | longest :: _ => endings longest
  else ends.filterMap token.afterChar

namespace Pattern

/-- Whether a name matches a pattern as a whole: nothing may be left after the last element. -/
def matchesName (p : Pattern) (name : List Char) : Bool :=
  (p.foldl Token.after [name]).contains []

/-- A pattern stands for a name when its elements stand for the parts of the name in order. -/
inductive Matches : Pattern → List Char → Prop
  | done : Matches [] []
  | char {token : Token} {c : Char} {p : Pattern} {name : List Char} :
      token.admits c = true → Matches p name → Matches (token :: p) (c :: name)
  | sequence {token : Token} {p : Pattern} {before name : List Char} :
      token.isSequence = true → Matches p name → Matches (token :: p) (before ++ name)

theorem mem_endings {e name : List Char} : e ∈ endings name ↔ e <:+ name := by
  induction name with
  | nil => simp [endings]
  | cons c rest ih => simp [endings, ih, List.suffix_cons_iff]

/-- The endings of a text come in a chain: each is an ending of all before it. -/
theorem endings_chain (name : List Char) : (endings name).Pairwise fun a b => b <:+ a := by
  induction name with
  | nil => simp [endings]
  | cons c rest ih =>
    refine List.pairwise_cons.2 ⟨fun e he => ?_, ih⟩
    exact (mem_endings.1 he).trans (List.suffix_cons c rest)

theorem suffix_afterChar {token : Token} {a b a' b' : List Char} (h : b <:+ a)
    (ha : token.afterChar a = some a') (hb : token.afterChar b = some b') : b' <:+ a' := by
  cases a with
  | nil => simp [Token.afterChar] at ha
  | cons c rest =>
    cases b with
    | nil => simp [Token.afterChar] at hb
    | cons d others =>
      obtain ⟨-, rfl⟩ : token.admits c = true ∧ rest = a' := by simpa [Token.afterChar] using ha
      obtain ⟨-, rfl⟩ : token.admits d = true ∧ others = b' := by
        simpa [Token.afterChar] using hb
      rcases List.suffix_cons_iff.1 h with heq | h
      · simp_all
      · exact (List.suffix_cons d others).trans h

theorem after_chain {ends : List (List Char)} (token : Token)
    (h : ends.Pairwise fun a b => b <:+ a) :
    (token.after ends).Pairwise fun a b => b <:+ a := by
  unfold Token.after
  split
  · split
    · exact List.Pairwise.nil
    · exact endings_chain _
  · exact List.pairwise_filterMap.2
      (h.imp fun hba a' ha b' hb => suffix_afterChar hba ha hb)

/-- Taking one element off the ends keeps what matches. -/
theorem exists_after_iff {ends : List (List Char)} {token : Token} {p : Pattern}
    (h : ends.Pairwise fun a b => b <:+ a) :
    (∃ e ∈ token.after ends, Matches p e) ↔ ∃ e ∈ ends, Matches (token :: p) e := by
  unfold Token.after
  cases hs : token.isSequence with
  | true =>
    cases ends with
    | nil => simp
    | cons longest shorter =>
      simp only [↓reduceIte, mem_endings]
      constructor
      · rintro ⟨e, ⟨before, rfl⟩, he⟩
        exact ⟨_, List.mem_cons_self, .sequence hs he⟩
      · rintro ⟨e, he, hm⟩
        have hle : e <:+ longest := by
          rcases List.mem_cons.1 he with rfl | he
          · exact List.suffix_refl e
          · exact (List.pairwise_cons.1 h).1 e he
        cases hm with
        | char ha hm => exact ⟨_, (List.suffix_cons _ _).trans hle, hm⟩
        | sequence _ hm => exact ⟨_, (List.suffix_append _ _).trans hle, hm⟩
  | false =>
    simp only [Bool.false_eq_true, ↓reduceIte, List.mem_filterMap]
    constructor
    · rintro ⟨e, ⟨a, ha, hae⟩, he⟩
      cases a with
      | nil => simp [Token.afterChar] at hae
      | cons c rest =>
        obtain ⟨hc, rfl⟩ : token.admits c = true ∧ rest = e := by
          simpa [Token.afterChar] using hae
        exact ⟨_, ha, .char hc he⟩
    · rintro ⟨e, he, hm⟩
      cases hm with
      | char ha hm => exact ⟨_, ⟨_, he, by simp [Token.afterChar, ha]⟩, hm⟩
      | sequence hs' _ => simp [hs] at hs'

theorem matchesName_iff {p : Pattern} {name : List Char} :
    p.matchesName name = true ↔ Matches p name := by
  suffices h : ∀ (p : Pattern) (ends : List (List Char)),
      (ends.Pairwise fun a b => b <:+ a) →
      ((p.foldl Token.after ends).contains [] = true ↔ ∃ e ∈ ends, Matches p e) by
    have := h p [name] (List.pairwise_singleton _ _)
    simpa [matchesName] using this
  intro p
  induction p with
  | nil =>
    intro ends _
    simp only [List.foldl_nil, List.contains_iff_mem]
    constructor
    · intro hmem
      exact ⟨[], hmem, .done⟩
    · rintro ⟨e, he, hm⟩
      cases hm
      exact he
  | cons token p ih =>
    intro ends hends
    rw [List.foldl_cons, ih _ (after_chain token hends), exists_after_iff hends]

/-- The text of a pattern that has no wildcards. -/
def literalText? : Pattern → Option (List Char)
  | [] => some []
  | .literal c :: rest => (literalText? rest).map (c :: ·)
  | _ :: _ => none

/-- Whether a pattern is two stars. -/
def isRecursive (p : Pattern) : Bool :=
  p.contains .anyDirectories

end Pattern

end Assay.Files
