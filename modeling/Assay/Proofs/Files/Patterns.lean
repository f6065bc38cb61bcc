import Assay.Files.Search
import Assay.Proofs.Files.Components
import Assay.Proofs.FirstFailure
import Mathlib.Data.List.TakeDrop

/-!
# Patterns below a directory

Which texts are patterns, stated as a relation that knows no fuel and no positions, and proved of
the reader. An escaped text is a pattern that matches that text alone. Main statement: a text is a
pattern below a directory just when it is one by itself, whatever characters the directory is
spelled with.
-/

namespace Assay.Files

namespace Pattern

/-! ## The grammar of patterns -/

/-- Whether two stars may stand after a character. -/
def IsEdge (before : Option Char) : Prop :=
  before = none ∨ before = some '/'

/-- A text that is read after a character has some elements. -/
inductive Reads : Option Char → List Char → Pattern → Prop
  | done {before} : Reads before [] []
  | anyChar {before rest p} (others : Reads (some '?') rest p) :
      Reads before ('?' :: rest) (.anyChar :: p)
  | sequence {before rest p} (alone : rest.head? ≠ some '*') (others : Reads (some '*') rest p) :
      Reads before ('*' :: rest) (.anySequence :: p)
  | allBelow {before} (edge : IsEdge before) : Reads before ['*', '*'] [.anyDirectories]
  | directories {before rest p} (edge : IsEdge before) (others : Reads (some '/') rest p) :
      Reads before ('*' :: '*' :: '/' :: rest) (.anyDirectories :: p)
  | set {before text token count after p} (first : readSet text = some (token, count, after))
      (others : Reads (some ']') after p) : Reads before ('[' :: text) (token :: p)
  | literal {before c rest p} (plain : c ≠ '?' ∧ c ≠ '*' ∧ c ≠ '[')
      (others : Reads (some c) rest p) : Reads before (c :: rest) (.literal c :: p)

/-- What is left after a set is an ending of the text, and the set is no literal character. -/
theorem readSet_eq_some {text after : List Char} {token : Token} {count : Nat}
    (h : readSet text = some (token, count, after)) :
    after.length ≤ text.length ∧ ∀ c, token ≠ .literal c := by
  have closing : ∀ {rest inner : List Char},
      rest.span (· ≠ ']') = (inner, ']' :: after) → after.length ≤ rest.length := by
    intro rest inner split
    have all := List.takeWhile_append_dropWhile (p := (· ≠ ']')) (l := rest)
    rw [List.span_eq_takeWhile_dropWhile] at split
    rw [(Prod.mk.inj split).2] at all
    have lengths := congrArg List.length all
    rw [List.length_append, List.length_cons] at lengths
    omega
  unfold readSet at h
  split at h
  · split at h
    · next split =>
      cases h
      have shorter := closing split
      exact ⟨by simp only [List.length_cons]; omega, fun c => Token.noConfusion⟩
    · cases h
  · cases h
  · split at h
    · next split =>
      cases h
      have shorter := closing split
      exact ⟨by simp only [List.length_cons]; omega, fun c => Token.noConfusion⟩
    · cases h
  · cases h

/-- What follows a single star, and what follows two of them. -/
theorem takeWhile_star {rest : List Char} :
    (rest.takeWhile (· == '*') = [] ↔ rest.head? ≠ some '*') ∧
      ((rest.takeWhile (· == '*')).length = 1 ↔
        ∃ after, rest = '*' :: after ∧ after.head? ≠ some '*') := by
  have none : ∀ {rest : List Char},
      rest.takeWhile (· == '*') = [] ↔ rest.head? ≠ some '*' := by
    intro rest
    cases rest with
    | nil => simp
    | cons c rest => by_cases star : c = '*' <;> simp [star]
  refine ⟨none, ?_⟩
  cases rest with
  | nil => simp
  | cons c rest =>
    by_cases star : c = '*'
    · simp [star, ← none]
    · simp [star]

theorem read_literal {fuel position : Nat} {before : Option Char} {c : Char} {rest : List Char}
    (plain : c ≠ '?' ∧ c ≠ '*' ∧ c ≠ '[') :
    read (fuel + 1) before position (c :: rest) =
      read fuel (some c) (position + 1) rest >>= fun others => .ok (.literal c :: others) := by
  rw [read]
  · exact plain.1
  · exact plain.2.1
  · exact plain.2.2

/-- The reader finds the elements that a text has, if its fuel is enough. -/
theorem read_of_reads {fuel position : Nat} {before : Option Char} {text : List Char} {p : Pattern}
    (reads : Reads before text p) (enough : text.length ≤ fuel) :
    read fuel before position text = .ok p := by
  induction reads generalizing fuel position with
  | done => cases fuel <;> rfl
  | anyChar others ih =>
    obtain ⟨fuel, rfl⟩ := Nat.exists_eq_add_one_of_ne_zero (Nat.ne_zero_of_lt enough)
    rw [read, ih (Nat.le_of_succ_le_succ enough)]
    rfl
  | sequence alone others ih =>
    obtain ⟨fuel, rfl⟩ := Nat.exists_eq_add_one_of_ne_zero (Nat.ne_zero_of_lt enough)
    rw [read, takeWhile_star.1.mpr alone, ih (Nat.le_of_succ_le_succ enough)]
    rfl
  | allBelow edge =>
    obtain ⟨fuel, rfl⟩ := Nat.exists_eq_add_one_of_ne_zero (Nat.ne_zero_of_lt enough)
    rw [read]
    exact if_pos edge
  | directories edge others ih =>
    obtain ⟨fuel, rfl⟩ := Nat.exists_eq_add_one_of_ne_zero (Nat.ne_zero_of_lt enough)
    rw [read]
    refine (if_pos edge).trans ?_
    have short := Nat.le_of_succ_le (Nat.le_of_succ_le (Nat.le_of_succ_le_succ enough))
    show (read fuel (some '/') (position + 3) _ >>=
      fun others => .ok (.anyDirectories :: others)) = _
    rw [ih short]
    rfl
  | set first others ih =>
    obtain ⟨fuel, rfl⟩ := Nat.exists_eq_add_one_of_ne_zero (Nat.ne_zero_of_lt enough)
    have short := Nat.le_trans (readSet_eq_some first).1 (Nat.le_of_succ_le_succ enough)
    rw [read, first]
    show (read fuel (some ']') _ _ >>= fun others => .ok (_ :: others)) = _
    rw [ih short]
    rfl
  | literal plain others ih =>
    obtain ⟨fuel, rfl⟩ := Nat.exists_eq_add_one_of_ne_zero (Nat.ne_zero_of_lt enough)
    rw [read_literal plain, ih (Nat.le_of_succ_le_succ enough)]
    rfl

theorem cons_of_read {token : Token} {outcome : Except PatternError Pattern} {p : Pattern}
    (h : (outcome >>= fun others => .ok (token :: others)) = .ok p) :
    ∃ others, outcome = .ok others ∧ p = token :: others := by
  cases outcome with
  | error e => cases h
  | ok others => exact ⟨others, rfl, (Except.ok.inj h).symm⟩

/-- What the reader finds are the elements of a text, if its fuel is enough. -/
theorem reads_of_read {fuel position : Nat} {before : Option Char} {text : List Char} {p : Pattern}
    (enough : text.length ≤ fuel) (h : read fuel before position text = .ok p) :
    Reads before text p := by
  induction fuel generalizing before position text p with
  | zero =>
    obtain rfl := List.eq_nil_of_length_eq_zero (Nat.le_zero.mp enough)
    obtain rfl : [] = p := Except.ok.inj h
    exact .done
  | succ fuel ih =>
    cases text with
    | nil =>
      obtain rfl : [] = p := Except.ok.inj h
      exact .done
    | cons c rest =>
      have short := Nat.le_of_succ_le_succ enough
      by_cases question : c = '?'
      · subst question
        rw [read] at h
        obtain ⟨others, found, rfl⟩ := cons_of_read h
        exact .anyChar (ih short found)
      by_cases star : c = '*'
      · subst star
        rw [read] at h
        split at h
        · cases h
        next few =>
        split at h
        · next one =>
          obtain ⟨others, found, rfl⟩ := cons_of_read h
          have alone := List.eq_nil_of_length_eq_zero (Nat.succ.inj one)
          exact .sequence (takeWhile_star.1.mp alone) (ih short found)
        next many =>
        split at h
        · next edge =>
          obtain ⟨after, rfl, last⟩ := takeWhile_star.2.mp
            (show (rest.takeWhile (· == '*')).length = 1 by omega)
          have drop : ('*' :: after).dropWhile (· == '*') = after := by
            cases after with
            | nil => rfl
            | cons c after =>
              have other : c ≠ '*' := by simpa using last
              simp [other]
          rw [drop] at h
          split at h
          · obtain rfl := Except.ok.inj h
            exact .allBelow edge
          · obtain ⟨others, found, rfl⟩ := cons_of_read h
            refine .directories edge (ih ?_ found)
            exact Nat.le_of_succ_le (Nat.le_of_succ_le short)
          · cases h
        · cases h
      by_cases bracket : c = '['
      · subst bracket
        rw [read] at h
        split at h
        · next first =>
          obtain ⟨others, found, rfl⟩ := cons_of_read h
          exact .set first (ih (Nat.le_trans (readSet_eq_some first).1 short) found)
        · cases h
      · rw [read_literal ⟨question, star, bracket⟩] at h
        obtain ⟨others, found, rfl⟩ := cons_of_read h
        exact .literal ⟨question, star, bracket⟩ (ih short found)

theorem parse_eq_ok {text : List Char} {p : Pattern} : parse text = .ok p ↔ Reads none text p :=
  ⟨reads_of_read (Nat.le_refl _), fun reads => read_of_reads reads (Nat.le_refl _)⟩

/-- At the beginning of a component a pattern is read as at the beginning of a text. -/
theorem Reads.edge {before other : Option Char} {text : List Char} {p : Pattern}
    (h : Reads before text p) (edge : IsEdge other) : Reads other text p := by
  cases h with
  | done => exact .done
  | anyChar others => exact .anyChar others
  | sequence alone others => exact .sequence alone others
  | allBelow _ => exact .allBelow edge
  | directories _ others => exact .directories edge others
  | set first others => exact .set first others
  | literal plain others => exact .literal plain others

theorem Reads.of_literal {before : Option Char} {c : Char} {rest : List Char} {p : Pattern}
    (h : Reads before (c :: rest) p) (plain : c ≠ '?' ∧ c ≠ '*' ∧ c ≠ '[') :
    ∃ q, p = .literal c :: q ∧ Reads (some c) rest q := by
  cases h with
  | literal _ others => exact ⟨_, rfl, others⟩
  | anyChar => exact absurd rfl plain.1
  | sequence => exact absurd rfl plain.2.1
  | allBelow => exact absurd rfl plain.2.1
  | directories => exact absurd rfl plain.2.1
  | set => exact absurd rfl plain.2.2

theorem Reads.of_set {before : Option Char} {text after : List Char} {p : Pattern} {token : Token}
    {count : Nat} (h : Reads before ('[' :: text) p)
    (first : readSet text = some (token, count, after)) :
    ∃ q, p = token :: q ∧ Reads (some ']') after q := by
  cases h with
  | set first' others =>
    obtain ⟨rfl, -, rfl⟩ : _ ∧ _ ∧ _ := by simpa [first] using first'
    exact ⟨_, rfl, others⟩
  | literal plain _ => exact absurd rfl plain.2.2

/-! ## Escaped texts -/

/-- Whether a character stands for something else than itself. -/
def IsSpecial (c : Char) : Prop :=
  c = '?' ∨ c = '*' ∨ c = '[' ∨ c = ']'

instance (c : Char) : Decidable (IsSpecial c) :=
  inferInstanceAs (Decidable (_ ∨ _))

/-- The pattern that an escaped text is. -/
def quote (text : List Char) : Pattern :=
  text.map fun c => if IsSpecial c then .oneOf [.one c] else .literal c

theorem escape_cons (c : Char) (text : List Char) :
    escape (c :: text) = (if IsSpecial c then ['[', c, ']'] else [c]) ++ escape text := rfl

theorem readSet_special {c : Char} {rest : List Char} (special : IsSpecial c) :
    readSet (c :: ']' :: rest) = some (.oneOf [.one c], 2, rest) := by
  rcases special with rfl | rfl | rfl | rfl <;> rfl

theorem reads_escape {before : Option Char} {text rest : List Char} {p : Pattern}
    (others : ∀ before, Reads before rest p) :
    Reads before (escape text ++ rest) (quote text ++ p) := by
  induction text generalizing before with
  | nil => exact others before
  | cons c text ih =>
    rw [escape_cons, quote, List.map_cons]
    by_cases special : IsSpecial c
    · rw [if_pos special, if_pos special]
      exact .set (readSet_special special) ih
    · rw [if_neg special, if_neg special]
      rw [IsSpecial, not_or, not_or, not_or] at special
      exact .literal ⟨special.1, special.2.1, special.2.2.1⟩ ih

theorem reads_of_escape {before : Option Char} {text rest : List Char} {p : Pattern}
    (h : Reads before (escape text ++ rest) p) :
    ∃ after q, p = quote text ++ q ∧ Reads after rest q := by
  induction text generalizing before p with
  | nil => exact ⟨before, p, rfl, h⟩
  | cons c text ih =>
    rw [escape_cons] at h
    rw [quote, List.map_cons]
    by_cases special : IsSpecial c
    · rw [if_pos special] at h ⊢
      obtain ⟨p, rfl, others⟩ := h.of_set (readSet_special special)
      obtain ⟨after, q, rfl, reads⟩ := ih others
      exact ⟨after, q, rfl, reads⟩
    · rw [if_neg special] at h ⊢
      rw [IsSpecial, not_or, not_or, not_or] at special
      obtain ⟨p, rfl, others⟩ := h.of_literal ⟨special.1, special.2.1, special.2.2.1⟩
      obtain ⟨after, q, rfl, reads⟩ := ih others
      exact ⟨after, q, rfl, reads⟩

theorem escape_eq_self {text : List Char} (plain : ∀ c ∈ text, ¬ IsSpecial c) :
    escape text = text := by
  induction text with
  | nil => rfl
  | cons c text ih =>
    obtain ⟨first, others⟩ := List.forall_mem_cons.mp plain
    rw [escape_cons, if_neg first, ih others]
    rfl

/-- An escaped text is a pattern. -/
theorem reads_escape_self (text : List Char) : Reads none (escape text) (quote text) := by
  have alone : Reads none (escape text ++ []) (quote text ++ []) := reads_escape fun _ => .done
  rwa [List.append_nil, List.append_nil] at alone

theorem admits_quoted {c d : Char} :
    (if IsSpecial c then Token.oneOf [.one c] else .literal c).admits d = true ↔ d = c := by
  split <;> simp [Token.admits, Member.has]

/-- An escaped text matches that text alone. -/
theorem quote_matches {text name : List Char} : Matches (quote text) name ↔ name = text := by
  induction text generalizing name with
  | nil =>
    constructor
    · intro h
      cases h
      rfl
    · rintro rfl
      exact .done
  | cons c text ih =>
    rw [quote, List.map_cons]
    constructor
    · intro h
      cases h with
      | char admits others => rw [admits_quoted.mp admits, ih.mp others]
      | sequence sequence _ =>
        split at sequence <;> cases sequence
    · rintro rfl
      exact .char (admits_quoted.mpr rfl) (ih.mpr rfl)

theorem splitOn_append_of_notMem {c : Char} {front : List Char} (h : c ∉ front)
    (rest : List Char) :
    (front ++ rest).splitOn c = (rest.splitOn c).modifyHead (front ++ ·) := by
  induction front with
  | nil =>
    rw [show (([] : List Char) ++ ·) = id from rfl, List.modifyHead_id]
    rfl
  | cons d front ih =>
    obtain ⟨differ, others⟩ : c ≠ d ∧ c ∉ front := by simpa using h
    rw [List.cons_append, List.splitOn_cons_eq_if_modifyHead, ih others]
    rw [if_neg (by simpa using Ne.symm differ), List.modifyHead_modifyHead]
    rfl

/-- The components of an escaped path are the components, escaped. -/
theorem splitOn_escape (text : List Char) :
    (escape text).splitOn '/' = (text.splitOn '/').map escape := by
  induction text with
  | nil => rfl
  | cons c text ih =>
    rw [escape_cons, List.splitOn_cons_eq_if_modifyHead c text]
    by_cases slash : c = '/'
    · subst slash
      rw [if_pos (show ('/' == '/') = true from rfl), List.map_cons, ← ih]
      exact List.splitOn_cons_eq_if_modifyHead ..
    · have noSlash : '/' ∉ (if IsSpecial c then ['[', c, ']'] else [c]) := by
        split <;> simp [Ne.symm slash]
      rw [splitOn_append_of_notMem noSlash, ih,
        if_neg (show ¬ (c == '/') = true by simpa using slash)]
      cases text.splitOn '/' with
      | nil => rfl
      | cons part parts => rfl

end Pattern

/-! ## Patterns for paths -/

/-- A text is a pattern for paths when it can be read, and each of its components by itself. -/
structure IsPattern (text : List Char) : Prop where
  whole : ∃ p, Pattern.Reads none text p
  parts : ∀ part ∈ text.splitOn '/', ∃ p, Pattern.Reads none part p

/-- What is a pattern by itself is one below any directory. -/
theorem isPattern_below {directory rest : List Char} :
    IsPattern (Pattern.escape directory ++ '/' :: rest) ↔ IsPattern rest := by
  have split : (Pattern.escape directory ++ '/' :: rest).splitOn '/' =
      (directory.splitOn '/').map Pattern.escape ++ rest.splitOn '/' := by
    rw [List.splitOn_append_cons_self, Pattern.splitOn_escape]
  constructor
  · rintro ⟨⟨p, whole⟩, parts⟩
    obtain ⟨before, q, -, reads⟩ := Pattern.reads_of_escape whole
    obtain ⟨r, -, others⟩ := reads.of_literal (by decide)
    refine ⟨⟨r, others.edge (.inl rfl)⟩, fun part mem => parts part ?_⟩
    rw [split]
    exact List.mem_append_right _ mem
  · rintro ⟨⟨p, whole⟩, parts⟩
    have slash (before : Option Char) :
        Pattern.Reads before ('/' :: rest) (.literal '/' :: p) :=
      .literal (by decide) (whole.edge (.inr rfl))
    refine ⟨⟨_, Pattern.reads_escape slash⟩, fun part mem => ?_⟩
    rw [split] at mem
    rcases List.mem_append.mp mem with mem | mem
    · obtain ⟨text, -, rfl⟩ := List.mem_map.mp mem
      exact ⟨_, Pattern.reads_escape_self text⟩
    · exact parts part mem

namespace Tree

variable {t : Tree}

/-- Where a search begins. -/
def searchStart (pattern : String) : String :=
  if Path.isAbsolute pattern then "/" else "."

/-- The components that a search follows. -/
def searchParts (pattern : String) : List (List Char) :=
  patternParts (if Path.isAbsolute pattern then pattern.toList.drop 1 else pattern.toList)

theorem mem_patternParts {text part : List Char} (h : part ∈ text.splitOn '/') :
    part ∈ patternParts text ∨ part = [] := by
  unfold patternParts
  by_cases ends : (text.splitOn '/').getLast? = some []
  · obtain ⟨init, all⟩ := List.getLast?_eq_some_iff.mp ends
    rw [if_pos ends, all, List.dropLast_concat]
    rw [all] at h
    simpa using h
  · rw [if_neg ends]
    exact .inl h

theorem patternParts_subset {text part : List Char} (h : part ∈ patternParts text) :
    part ∈ text.splitOn '/' := by
  rw [patternParts] at h
  split at h
  · exact List.dropLast_subset _ h
  · exact h

/-- The components that a search follows are those of the pattern; only empty ones are left out. -/
theorem mem_searchParts {pattern : String} {part : List Char} :
    (part ∈ searchParts pattern → part ∈ pattern.toList.splitOn '/') ∧
      (part ∈ pattern.toList.splitOn '/' → part ∈ searchParts pattern ∨ part = []) := by
  unfold searchParts
  by_cases absolute : Path.isAbsolute pattern = true
  · obtain ⟨rest, chars⟩ := Path.exists_of_isAbsolute absolute
    rw [if_pos absolute, chars, List.splitOn_cons_eq_if_modifyHead, if_pos (by rfl)]
    refine ⟨fun mem => List.mem_cons_of_mem _ (patternParts_subset mem), fun mem => ?_⟩
    rcases List.mem_cons.mp mem with rfl | mem
    · exact .inr rfl
    · exact mem_patternParts mem
  · rw [if_neg absolute]
    exact ⟨patternParts_subset, mem_patternParts⟩

/-- What a search finds that does not fail. -/
theorem search_eq_ok_iff {pattern : String} {found : List String} :
    t.search pattern = .ok found ↔
      (∃ p, Pattern.Reads none pattern.toList p) ∧
        ∃ components, List.Forall₂ (Pattern.Reads none) (searchParts pattern) components ∧
          Path.sort (t.expand (pattern.toList.getLast? == some '/') (collapse components)
            (searchStart pattern)) = found := by
  have unfolded : t.search pattern =
      Pattern.parse pattern.toList >>= fun _ =>
        (searchParts pattern).mapM Pattern.parse >>= fun components =>
          .ok (Path.sort (t.expand (pattern.toList.getLast? == some '/') (collapse components)
            (searchStart pattern))) := by
    rw [search, searchParts, searchStart]
    cases Path.isAbsolute pattern <;> rfl
  have parsed (components : List Pattern) :
      (searchParts pattern).mapM Pattern.parse = .ok components ↔
        List.Forall₂ (Pattern.Reads none) (searchParts pattern) components := by
    simp only [mapM_eq_ok_iff, Pattern.parse_eq_ok]
  simp only [unfolded, ← parsed, ← Pattern.parse_eq_ok]
  cases Pattern.parse pattern.toList with
  | error e =>
    constructor
    · intro h
      cases h
    · rintro ⟨⟨_, failed⟩, -⟩
      cases failed
  | ok p =>
    cases (searchParts pattern).mapM Pattern.parse with
    | error e =>
      constructor
      · intro h
        cases h
      · rintro ⟨-, _, failed, -⟩
        cases failed
    | ok components =>
      constructor
      · intro h
        exact ⟨⟨p, rfl⟩, components, rfl, Except.ok.inj h⟩
      · rintro ⟨-, others, same, rfl⟩
        obtain rfl := Except.ok.inj same
        rfl

/-- A search fails just when its text is no pattern. -/
theorem search_isOk_iff {pattern : String} :
    (∃ found, t.search pattern = .ok found) ↔ IsPattern pattern.toList := by
  constructor
  · rintro ⟨found, h⟩
    obtain ⟨whole, components, reads, -⟩ := search_eq_ok_iff.mp h
    refine ⟨whole, fun part mem => ?_⟩
    rcases mem_searchParts.2 mem with mem | rfl
    · exact exists_forall₂_iff.mp ⟨components, reads⟩ part mem
    · exact ⟨[], .done⟩
  · rintro ⟨whole, parts⟩
    obtain ⟨components, reads⟩ := exists_forall₂_iff.mpr fun part mem =>
      parts part (mem_searchParts.1 mem)
    exact ⟨_, search_eq_ok_iff.mpr ⟨whole, components, reads, rfl⟩⟩

end Tree

end Assay.Files
