import Assay.Proofs.Decimal.Layout
import Assay.Proofs.Json.Spacing

/-!
# What the text of a document begins with

The first character of a text tells what kind of document it is of, and it is neither a blank nor a
closing bracket. Numbers have to be finite for that, because what is not finite is written as null.
-/

namespace Assay.Json

/-! ## Numbers -/

/-- The numbers that have a decimal text of their own. -/
def Number.IsFinite : Number → Prop
  | .int _ => True
  | .float x => x.isFinite = true

/-- A finite number is written as a numeral, perhaps after a minus sign. -/
theorem Number.chars_eq {n : Number} (finite : n.IsFinite) :
    ∃ sign cs, (sign = [] ∨ sign = ['-']) ∧ Decimal.Numeral cs ∧ n.chars = sign ++ cs := by
  cases n with
  | int i =>
    cases i with
    | ofNat n => exact ⟨[], _, .inl rfl, Decimal.numeral_digits n, rfl⟩
    | negSucc n => exact ⟨['-'], _, .inr rfl, Decimal.numeral_digits (n + 1), rfl⟩
  | float x =>
    obtain ⟨negative, mantissa, exponent, value⟩ := Decimal.Binary64.ofFloat_of_isFinite finite
    obtain ⟨cs, numeral, written⟩ :=
      Decimal.shortestFinite_numeral numberLayout negative mantissa exponent
    refine ⟨if negative then ['-'] else [], cs, ?_, numeral, ?_⟩
    · cases negative with
      | false => exact .inl rfl
      | true => exact .inr rfl
    · rw [Number.chars, floatChars, value]
      exact written

/-! ## Kinds -/

/-- The kind of document that a character begins. -/
def leadOf (c : Char) : Option Lead :=
  if c = 'n' then some .null
  else if c = 't' then some .yes
  else if c = 'f' then some .no
  else if c = '"' then some .text
  else if c = '[' then some .list
  else if c = '\x7b' then some .object
  else if c = '-' ∨ Decimal.isDigit c then some .number
  else none

theorem leadOf_of_isDigit {c : Char} (digit : Decimal.isDigit c = true) :
    leadOf c = some .number := by
  have other : ∀ x ∈ ['n', 't', 'f', '"', '[', '\x7b'], c ≠ x := by
    rintro x mem rfl
    have none : ∀ x ∈ ['n', 't', 'f', '"', '[', '\x7b'], (!Decimal.isDigit x) = true :=
      List.all_eq_true.mp rfl
    exact absurd (none c mem) (by simp [digit])
  simp only [List.forall_mem_cons] at other
  obtain ⟨n, t, f, quote, bracket, brace, -⟩ := other
  simp only [leadOf, n, t, f, quote, bracket, brace, digit, if_false, or_true, if_true]

/-- The first character of a text tells the kind of the document. -/
theorem exists_lead_spaced (gaps : Spacing) (depth : Nat) {v : Json}
    (finite : Numbers Number.IsFinite v) :
    ∃ c cs, spaced gaps depth v = c :: cs ∧ leadOf c = some v.lead := by
  cases v with
  | null => exact ⟨_, _, rfl, rfl⟩
  | bool b =>
    cases b with
    | true => exact ⟨_, _, rfl, rfl⟩
    | false => exact ⟨_, _, rfl, rfl⟩
  | num n =>
    obtain ⟨sign, cs, minus, ⟨d, rest, rfl, digit, -⟩, written⟩ := n.chars_eq finite
    rw [spaced, written]
    rcases minus with rfl | rfl
    · exact ⟨d, rest, rfl, leadOf_of_isDigit digit⟩
    · exact ⟨'-', d :: rest, rfl, rfl⟩
  | str s => exact ⟨_, _, rfl, rfl⟩
  | arr items =>
    cases items with
    | nil => exact ⟨_, _, rfl, rfl⟩
    | cons item rest => exact ⟨_, _, rfl, rfl⟩
  | obj members =>
    cases members with
    | nil => exact ⟨_, _, rfl, rfl⟩
    | cons m rest => exact ⟨_, _, rfl, rfl⟩

theorem exists_lead {v : Json} (finite : Numbers Number.IsFinite v) :
    ∃ c cs, compactChars v = c :: cs ∧ leadOf c = some v.lead :=
  spaced_tight 0 v ▸ exists_lead_spaced .tight 0 finite

/-- What begins a document is neither a blank nor a closing bracket. -/
theorem of_leadOf {c : Char} {kind : Lead} (h : leadOf c = some kind) :
    isBlank c = false ∧ c ≠ ']' := by
  constructor
  · have begins : (leadOf c).isSome = true := h ▸ rfl
    exact solid_of_all (p := fun c => (leadOf c).isSome) rfl begins
  · rintro rfl
    exact absurd h (by decide +revert)

end Assay.Json
