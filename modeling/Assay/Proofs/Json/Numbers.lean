import Assay.Proofs.Json.Words

/-!
# Numbers in the middle of a text

Main statement: a number that the reader makes of a text of its own is also read where that text
stands in a longer one, if what follows continues no number (`EndsNumber`).

A reader of numbers takes a front of the characters that are left (`OfFront`). What follows the
characters that it was given makes no difference to what it takes, because it looks at most one
character ahead and what it finds there is nothing it would go on with.
-/

namespace Assay.Json

/-- A reader that takes a front of a text, and takes the same when more follows the text. -/
def OfFront (read : List Char → Except Fault (β × List Char)) : Prop :=
  ∀ ⦃cs left : List Char⦄ ⦃result : β⦄, read cs = .ok (result, left) →
    left <:+ cs ∧ ∀ {rest}, EndsNumber rest → read (cs ++ rest) = .ok (result, left ++ rest)

theorem first_append {P : Char → Prop} {cs rest : List Char}
    (own : ∀ c after, cs = c :: after → P c) (more : ∀ c after, rest = c :: after → P c) :
    ∀ c after, cs ++ rest = c :: after → P c := by
  intro c after same
  cases cs with
  | nil => exact more c after same
  | cons d cs => exact (List.cons.inj same).1 ▸ own d cs rfl

/-- A reader that does one thing after certain first characters and another thing otherwise takes
fronts if both do, as none of these characters follows a number. -/
theorem ofFront_of_first {read other : List Char → Except Fault (β × List Char)}
    (leads : Char → Prop) (starts : ∀ c, leads c → OfFront fun cs => read (c :: cs))
    (front : OfFront other)
    (otherwise : ∀ {cs}, (∀ c after, cs = c :: after → ¬ leads c) → read cs = other cs)
    (continues : ∀ c, leads c → c = '.' ∨ c = 'e' ∨ c = 'E') : OfFront read := by
  intro cs left result reads
  by_cases first : ∃ c after, cs = c :: after ∧ leads c
  · obtain ⟨c, cs, rfl, lead⟩ := first
    obtain ⟨suffix, more⟩ := starts c lead reads
    exact ⟨suffix.trans (List.suffix_cons c cs), more⟩
  · have own : ∀ c after, cs = c :: after → ¬ leads c :=
      fun c after same lead => first ⟨c, after, same, lead⟩
    rw [otherwise own] at reads
    obtain ⟨suffix, more⟩ := front reads
    refine ⟨suffix, ?_⟩
    intro rest ends
    -- if the text is empty, the first character is one of what follows, and that is none of them
    have none : ∀ c after, rest = c :: after → ¬ leads c := by
      intro c after same lead
      obtain ⟨point, small, large⟩ := ends.2 c after same
      rcases continues c lead with rfl | rfl | rfl
      · exact point rfl
      · exact small rfl
      · exact large rfl
    rw [otherwise (first_append own none)]
    exact more ends

/-! ## Runs of digits -/

section
variable {rest : List Char} (ends : Decimal.EndsDigits rest)
include ends

theorem startsWithDigit_append (cs : List Char) :
    startsWithDigit (cs ++ rest) = startsWithDigit cs := by
  cases cs with
  | nil => exact startsWithDigit_of_ends ends
  | cons c cs => rfl

theorem dropDigits_append (cs : List Char) :
    (cs ++ rest).dropWhile Decimal.isDigit = cs.dropWhile Decimal.isDigit ++ rest := by
  have kept : rest.dropWhile Decimal.isDigit = rest := by
    cases rest with
    | nil => rfl
    | cons c after => exact List.dropWhile_cons_of_neg (by simp [ends c after rfl])
  rw [List.dropWhile_append, kept]
  split
  · next none => rw [List.isEmpty_iff.mp none, List.nil_append]
  · rfl

theorem runOfDigits_append (cs : List Char) :
    (cs ++ rest).takeWhile Decimal.isDigit = cs.takeWhile Decimal.isDigit := by
  have none : rest.takeWhile Decimal.isDigit = [] := by
    cases rest with
    | nil => rfl
    | cons c after => exact List.takeWhile_cons_of_neg (by simp [ends c after rfl])
  rw [List.takeWhile_append, none, List.append_nil]
  split
  · next all => exact ((List.takeWhile_prefix _).eq_of_length all).symm
  · rfl

/-- The digits of a significand end where they ended before more was appended. -/
theorem takeDigits_of_append (n : Nat) (cs : List Char) :
    takeDigits n (cs ++ rest) =
      ((takeDigits n cs).1, (takeDigits n cs).2.1, (takeDigits n cs).2.2 ++ rest) := by
  induction cs generalizing n with
  | nil =>
    cases rest with
    | nil => rfl
    | cons c after =>
      show takeDigits n (c :: after) = (n, 0, c :: after)
      rw [takeDigits, if_neg (by simp [ends c after rfl])]
  | cons c cs ih =>
    rw [List.cons_append, takeDigits, takeDigits]
    split
    · rw [ih]
    · rfl

theorem exponentDigits_of_append (n : Nat) (cs : List Char) :
    exponentDigits n (cs ++ rest) =
      ((exponentDigits n cs).1, (exponentDigits n cs).2.1, (exponentDigits n cs).2.2 ++ rest) := by
  induction cs generalizing n with
  | nil =>
    cases rest with
    | nil => rfl
    | cons c after =>
      show exponentDigits n (c :: after) = (n, true, c :: after)
      rw [exponentDigits, if_neg (by simp [ends c after rfl])]
  | cons c cs ih =>
    rw [List.cons_append, exponentDigits, exponentDigits]
    split
    · split
      · exact ih _
      · rfl
    · rfl

end

theorem takeDigits_suffix (n : Nat) (cs : List Char) : (takeDigits n cs).2.2 <:+ cs := by
  induction cs generalizing n with
  | nil => exact List.suffix_refl []
  | cons c cs ih =>
    rw [takeDigits]
    split
    · exact (ih _).trans (List.suffix_cons c cs)
    · exact List.suffix_refl _

theorem exponentDigits_suffix (n : Nat) (cs : List Char) : (exponentDigits n cs).2.2 <:+ cs := by
  induction cs generalizing n with
  | nil => exact List.suffix_refl []
  | cons c cs ih =>
    rw [exponentDigits]
    split
    · split
      · exact (ih _).trans (List.suffix_cons c cs)
      · exact List.suffix_cons c cs
    · exact List.suffix_refl _

/-! ## Parts of a number -/

section
variable (negative : Bool) (significand : Nat) (shift : Int)

theorem ofFront_scaledNumber (exponent : Int) :
    OfFront (scaledNumber negative significand exponent) := by
  intro cs left result reads
  unfold scaledNumber at reads ⊢
  split at reads
  · cases reads
    exact ⟨List.suffix_refl _, fun _ => rfl⟩
  · cases reads

/-- The sign of an exponent, true for a minus, and what follows it. -/
def exponentSign : List Char → Bool × List Char
  | '+' :: rest => (false, rest)
  | '-' :: rest => (true, rest)
  | other => (false, other)

/-- An exponent after its sign. -/
def exponentAfterSign (down : Bool) : List Char → Except Fault (Number × List Char)
  | [] => .error (here .endInValue [])
  | c :: rest =>
    if Decimal.isDigit c then
      match exponentDigits (Decimal.digitValue c) rest with
      | (exponent, true, rest) =>
        scaledNumber negative significand (if down then shift - exponent else shift + exponent) rest
      | (_, false, rest) =>
        if significand ≠ 0 ∧ ¬ down then .error (here .numberOutOfRange rest)
        else .ok (.float (if negative then -0.0 else 0.0), rest.dropWhile Decimal.isDigit)
    else .error (past .badNumber (c :: rest))

theorem exponentPart_eq (cs : List Char) :
    exponentPart negative significand shift cs =
      exponentAfterSign negative significand shift (exponentSign cs).1 (exponentSign cs).2 := by
  unfold exponentPart
  split
  next down left sign =>
    rw [show exponentSign cs = (down, left) from sign]
    rfl

/-- The sign is the first character or none, so nothing that follows is taken for it. -/
theorem exponentSign_cons_append (c : Char) (cs rest : List Char) :
    exponentSign (c :: cs ++ rest) =
      ((exponentSign (c :: cs)).1, (exponentSign (c :: cs)).2 ++ rest) := by
  by_cases plus : c = '+'
  · subst plus
    rfl
  by_cases minus : c = '-'
  · subst minus
    rfl
  have none (after : List Char) : exponentSign (c :: after) = (false, c :: after) := by
    rw [exponentSign]
    · exact fun _ same => plus (List.cons.inj same).1
    · exact fun _ same => minus (List.cons.inj same).1
  rw [List.cons_append, none, none]
  rfl

theorem exponentSign_suffix (cs : List Char) : (exponentSign cs).2 <:+ cs := by
  unfold exponentSign
  split
  · exact List.suffix_cons _ _
  · exact List.suffix_cons _ _
  · exact List.suffix_refl _

theorem ofFront_exponentAfterSign (down : Bool) :
    OfFront (exponentAfterSign negative significand shift down) := by
  intro cs left result reads
  cases cs with
  | nil => cases reads
  | cons c cs =>
    have digits := exponentDigits_suffix (Decimal.digitValue c) cs
    rw [exponentAfterSign] at reads
    split at reads
    · next digit =>
      split at reads
      · next exponent after taken =>
        rw [taken] at digits
        obtain ⟨front, more⟩ := ofFront_scaledNumber negative significand _ reads
        refine ⟨(front.trans digits).trans (List.suffix_cons c cs), ?_⟩
        intro rest ends
        rw [List.cons_append, exponentAfterSign, if_pos digit,
          exponentDigits_of_append ends.1, taken]
        exact more ends
      · next exponent after taken =>
        rw [taken] at digits
        split at reads
        · cases reads
        · next zero =>
          cases reads
          refine ⟨((List.dropWhile_suffix _).trans digits).trans (List.suffix_cons c cs), ?_⟩
          intro rest ends
          rw [List.cons_append, exponentAfterSign, if_pos digit,
            exponentDigits_of_append ends.1, taken]
          simp only
          rw [if_neg zero, dropDigits_append ends.1]
    · cases reads

theorem ofFront_exponentPart : OfFront (exponentPart negative significand shift) := by
  intro cs left result reads
  cases cs with
  | nil => cases reads
  | cons c cs =>
    rw [exponentPart_eq] at reads
    obtain ⟨front, more⟩ := ofFront_exponentAfterSign negative significand shift _ reads
    refine ⟨front.trans (exponentSign_suffix _), ?_⟩
    intro rest ends
    rw [exponentPart_eq, exponentSign_cons_append]
    exact more ends

theorem ofFront_afterFraction : OfFront (afterFraction negative significand shift) := by
  refine ofFront_of_first (fun c => c = 'e' ∨ c = 'E') ?_
    (ofFront_scaledNumber negative significand shift) ?_ (fun c lead => .inr lead)
  · rintro c (rfl | rfl)
    · exact ofFront_exponentPart negative significand shift
    · exact ofFront_exponentPart negative significand shift
  · intro cs other
    rw [afterFraction.eq_def]
    split
    · exact absurd (.inl rfl) (other _ _ rfl)
    · exact absurd (.inr rfl) (other _ _ rfl)
    · rfl

theorem ofFront_fractionPart : OfFront (fractionPart negative significand shift) := by
  intro cs left result reads
  have digits := takeDigits_suffix significand cs
  unfold fractionPart at reads ⊢
  split at reads
  next value count after taken =>
  rw [taken] at digits
  split at reads
  · next more =>
    obtain ⟨front, again⟩ := ofFront_afterFraction negative _ _ reads
    refine ⟨(front.trans (List.dropWhile_suffix _)).trans digits, ?_⟩
    intro rest ends
    rw [takeDigits_of_append ends.1, taken]
    simp only [startsWithDigit_append ends.1, more, if_true, dropDigits_append ends.1]
    exact again ends
  · next more =>
    split at reads
    · split at reads
      · cases reads
      · cases reads
    · next some =>
      obtain ⟨front, again⟩ := ofFront_afterFraction negative _ _ reads
      refine ⟨front.trans digits, ?_⟩
      intro rest ends
      rw [takeDigits_of_append ends.1, taken]
      simp only [startsWithDigit_append ends.1, more, if_false, some]
      exact again ends

theorem ofFront_afterWhole : OfFront (afterWhole negative significand shift) := by
  refine ofFront_of_first (fun c => c = '.') ?_ (ofFront_afterFraction negative significand shift)
    ?_ (fun c lead => .inl lead)
  · rintro c rfl
    exact ofFront_fractionPart negative significand shift
  · intro cs other
    rw [afterWhole.eq_def]
    split
    · exact absurd rfl (other _ _ rfl)
    · rfl

end

/-! ## Whole numbers -/

/-- The number that whole digits are when nothing continues them. -/
def integer (negative : Bool) (significand : Nat) : Number :=
  if negative = false then .int significand
  else if significand = 0 ∨ UInt64.size < 2 * significand then
    .float (-(Float.ofNat significand))
  else .int (-(significand : Int))

theorem ofFront_afterInteger (negative : Bool) (significand : Nat) :
    OfFront (afterInteger negative significand) := by
  have whole : OfFront fun cs => Except.ok (integer negative significand, cs) := by
    intro cs left result reads
    cases reads
    exact ⟨List.suffix_refl _, fun _ => rfl⟩
  refine ofFront_of_first (fun c => c = '.' ∨ c = 'e' ∨ c = 'E') ?_ whole ?_ (fun c lead => lead)
  · rintro c (rfl | rfl | rfl)
    · exact ofFront_fractionPart negative significand 0
    · exact ofFront_exponentPart negative significand 0
    · exact ofFront_exponentPart negative significand 0
  · intro cs other
    rw [afterInteger.eq_def]
    split
    · exact absurd (.inl rfl) (other _ _ rfl)
    · exact absurd (.inr (.inl rfl)) (other _ _ rfl)
    · exact absurd (.inr (.inr rfl)) (other _ _ rfl)
    · unfold integer
      split
      · rfl
      · split <;> rfl

/-- A number after its first digit, if that is no zero. -/
def afterDigit (negative : Bool) (significand : Nat) (cs : List Char) :
    Except Fault (Number × List Char) :=
  let (value, _, after) := takeDigits significand cs
  if startsWithDigit after then
    afterWhole negative value (after.takeWhile Decimal.isDigit).length
      (after.dropWhile Decimal.isDigit)
  else afterInteger negative value after

theorem ofFront_afterDigit (negative : Bool) (significand : Nat) :
    OfFront (afterDigit negative significand) := by
  intro cs left result reads
  have digits := takeDigits_suffix significand cs
  unfold afterDigit at reads ⊢
  split at reads
  next value count after taken =>
  rw [taken] at digits
  split at reads
  · next more =>
    obtain ⟨front, again⟩ := ofFront_afterWhole negative value _ reads
    refine ⟨(front.trans (List.dropWhile_suffix _)).trans digits, ?_⟩
    intro rest ends
    rw [takeDigits_of_append ends.1, taken]
    simp only [startsWithDigit_append ends.1, more, if_true, runOfDigits_append ends.1,
      dropDigits_append ends.1]
    exact again ends
  · next more =>
    obtain ⟨front, again⟩ := ofFront_afterInteger negative value reads
    refine ⟨front.trans digits, ?_⟩
    intro rest ends
    rw [takeDigits_of_append ends.1, taken]
    simp only [startsWithDigit_append ends.1, more]
    exact again ends

/-- **A number is read apart from what follows it**, if that does not continue it. -/
theorem ofFront_number (negative : Bool) : OfFront (number negative) := by
  intro cs left result reads
  cases cs with
  | nil => cases reads
  | cons c cs =>
    by_cases zero : c = '0'
    · subst zero
      rw [number] at reads
      split at reads
      · cases reads
      · next alone =>
        obtain ⟨front, more⟩ := ofFront_afterInteger negative 0 reads
        refine ⟨front.trans (List.suffix_cons _ _), ?_⟩
        intro rest ends
        rw [List.cons_append, number, startsWithDigit_append ends.1, if_neg alone]
        exact more ends
    · have whole (cs : List Char) : number negative (c :: cs) =
          if Decimal.isDigit c then afterDigit negative (Decimal.digitValue c) cs
          else .error (past .badNumber (c :: cs)) := by
        rw [number]
        · rfl
        · exact zero
      rw [whole] at reads
      split at reads
      · next digit =>
        obtain ⟨front, more⟩ := ofFront_afterDigit negative _ reads
        refine ⟨front.trans (List.suffix_cons c cs), ?_⟩
        intro rest ends
        rw [List.cons_append, whole, if_pos digit]
        exact more ends
      · cases reads

end Assay.Json
