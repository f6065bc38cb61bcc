import Assay.Proofs.Shape.Repetition
import Assay.Proofs.Shape.Schema
import Mathlib.Data.List.Nodup

/-!
# What the check finds

Main statement: an answer passes the check exactly if it fits its shape (`Fits`), and the reason for
which another one is refused lists exactly the places where it departs from the shape (`Departs`),
each of them once. What is listed are the violations of the JSON Schema of the shape.

Numbers that are not integers are left out where a list is checked for repetitions, because there
it depends on the length of the list whether an integer and a floating-point number of one value
count as equal. Everywhere else a number may be of either form.
-/

namespace Assay.Shape

open Json

/-! ## What a shape asks for -/

/-- The shape of the items of a list or a set. -/
def item? : Shape → Option Shape
  | .str => none
  | .list item => item
  | .set item => item

/-- An answer fits a shape: it is a string, a list, or a list in which no document stands twice, and
if there is a shape of items, every item fits it. -/
inductive Fits : Shape → Json → Prop
  | str (s : String) : Fits .str (.str s)
  | list {item : Option Shape} {items : List Json}
    (each : ∀ inner, item = some inner → ∀ v ∈ items, Fits inner v) : Fits (.list item) (.arr items)
  | set {item : Option Shape} {items : List Json}
    (each : ∀ inner, item = some inner → ∀ v ∈ items, Fits inner v)
    (differ : items.Pairwise (· ≠ ·)) : Fits (.set item) (.arr items)

/-- An answer departs from a shape at a place inside it. Where a string or a list is wanted and
something else stands, nothing below is looked at; the items of a set are looked at whether or not
some of them are repeated. -/
inductive Departs : Shape → Json → List Nat → Departure → Prop
  | notText {answer : Json} (other : ∀ s, answer ≠ .str s) :
    Departs .str answer [] (.wrongKind "string" answer)
  | notList {shape : Shape} {answer : Json} (wanted : shape ≠ .str)
    (other : ∀ items, answer ≠ .arr items) : Departs shape answer [] (.wrongKind "array" answer)
  | repeated {item : Option Shape} {items : List Json} (twice : ¬ items.Pairwise (· ≠ ·)) :
    Departs (.set item) (.arr items) [] (.repeatedItems (.arr items))
  | item {shape inner : Shape} {items : List Json} {i : Nat} {v : Json} {place : List Nat}
    {d : Departure} (of : shape.item? = some inner) (here : items[i]? = some v)
    (below : Departs inner v place d) : Departs shape (.arr items) (i :: place) d

/-- The numbers below a list that is checked for repetitions are integers. -/
def IntegersInSets : Shape → Json → Prop
  | .list (some inner), .arr items => ∀ v ∈ items, IntegersInSets inner v
  | .set _, .arr items => ∀ v ∈ items, v.Everywhere (Numbers Number.IsInteger)
  | _, _ => True

theorem integersInSets_of_everywhere {shape : Shape} {answer : Json}
    (whole : answer.Everywhere (Numbers Number.IsInteger)) : IntegersInSets shape answer := by
  induction shape generalizing answer with
  | str => trivial
  | list item ih =>
    cases answer with
    | arr items =>
      cases item with
      | none => trivial
      | some inner => exact fun v mem => ih inner rfl ((everywhere_arr.mp whole).2 v mem)
    | _ => cases item <;> trivial
  | set item ih =>
    cases answer with
    | arr items => exact (everywhere_arr.mp whole).2
    | _ => trivial

/-! ## Departures of items -/

section
variable {check : Json → List (List Nat × Departure)} {items : List Json} {place : List Nat}
  {d : Departure}

theorem mem_itemDepartures :
    (place, d) ∈ itemDepartures check items ↔
      ∃ i v rest, items[i]? = some v ∧ place = i :: rest ∧ (rest, d) ∈ check v := by
  simp only [itemDepartures, List.mem_flatMap, List.mem_map]
  constructor
  · rintro ⟨⟨v, i⟩, mem, ⟨rest, d'⟩, found, same⟩
    obtain ⟨rfl, rfl⟩ := Prod.mk.inj same
    exact ⟨i, v, rest, List.mk_mem_zipIdx_iff_getElem?.mp mem, rfl, found⟩
  · rintro ⟨i, v, rest, here, rfl, found⟩
    exact ⟨(v, i), List.mk_mem_zipIdx_iff_getElem?.mpr here, (rest, d), found, rfl⟩

/-- If no place is found twice in an item, none is found twice in a list of items. -/
theorem itemDepartures_nodup (each : ∀ v, ((check v).map Prod.fst).Nodup) :
    ((itemDepartures check items).map Prod.fst).Nodup := by
  have places : (itemDepartures check items).map Prod.fst =
      items.zipIdx.flatMap fun at' => ((check at'.1).map Prod.fst).map (at'.2 :: ·) := by
    simp [itemDepartures, List.map_flatMap, Function.comp_def]
  have positions : (items.zipIdx.map Prod.snd).Nodup := by
    rw [List.zipIdx_map_snd]
    exact List.nodup_range'
  rw [places, List.nodup_flatMap]
  refine ⟨fun at' _ => (each at'.1).map List.cons_injective, ?_⟩
  rw [List.nodup_iff_pairwise_ne, List.pairwise_map] at positions
  refine positions.imp ?_
  -- the places in two items differ in their first position
  intro x y different place mem mem'
  obtain ⟨p, -, rfl⟩ := List.mem_map.mp mem
  obtain ⟨q, -, same⟩ := List.mem_map.mp mem'
  exact different (List.cons.inj same).1.symm

theorem mem_repetition {answer : Json}
    (whole : ∀ v ∈ items, v.Everywhere (Numbers Number.IsInteger)) :
    (place, d) ∈ repetition true answer items ↔
      ¬ items.Pairwise (· ≠ ·) ∧ place = [] ∧ d = .repeatedItems answer := by
  rw [← allDifferent_iff whole, repetition]
  cases allDifferent items <;> simp

/-- A repetition is reported once, at the list itself. -/
theorem repetition_places (unique : Bool) (answer : Json) (items : List Json) :
    (repetition unique answer items).map Prod.fst = [] ∨
      (repetition unique answer items).map Prod.fst = [[]] := by
  rw [repetition]
  split
  · exact .inr rfl
  · exact .inl rfl

/-- The departures of the items from the shape of items, if there is one. -/
def inItems (item : Option Shape) (items : List Json) : List (List Nat × Departure) :=
  item.elim [] fun inner => itemDepartures inner.departures items

theorem departures_list (item : Option Shape) (items : List Json) :
    departures (.list item) (.arr items) = inItems item items := by
  cases item <;> rfl

theorem departures_set (item : Option Shape) (items : List Json) :
    departures (.set item) (.arr items) =
      inItems item items ++ repetition true (.arr items) items := by
  cases item <;> rfl

theorem mem_inItems {item : Option Shape} : (place, d) ∈ inItems item items ↔
    ∃ inner i v rest, item = some inner ∧ items[i]? = some v ∧ place = i :: rest ∧
      (rest, d) ∈ inner.departures v := by
  cases item with
  | none => simp [inItems]
  | some inner => simp [inItems, mem_itemDepartures]

theorem nil_notMem_inItems {item : Option Shape} : [] ∉ (inItems item items).map Prod.fst := by
  intro mem
  obtain ⟨⟨_, d⟩, found, rfl⟩ := List.mem_map.mp mem
  obtain ⟨inner, i, v, rest, -, -, same, -⟩ := mem_inItems.mp found
  cases same

theorem inItems_nodup {item : Option Shape}
    (each : ∀ inner, item = some inner → ∀ v, ((inner.departures v).map Prod.fst).Nodup) :
    ((inItems item items).map Prod.fst).Nodup := by
  cases item with
  | none => exact List.nodup_nil
  | some inner => exact itemDepartures_nodup (each inner rfl)

end

/-! ## The departures of an answer -/

section
variable {shape : Shape} {answer : Json}

theorem list_or_not (answer : Json) :
    (∃ items, answer = .arr items) ∨ ∀ items, answer ≠ .arr items := by
  by_cases list : ∃ items, answer = .arr items
  · exact .inl list
  · exact .inr fun items same => list ⟨items, same⟩

theorem text_or_not (answer : Json) : (∃ s, answer = .str s) ∨ ∀ s, answer ≠ .str s := by
  by_cases text : ∃ s, answer = .str s
  · exact .inl text
  · exact .inr fun s same => text ⟨s, same⟩

/-- Where a string is wanted, anything else is one departure. -/
theorem departures_of_not_text (other : ∀ s, answer ≠ .str s) :
    departures .str answer = [([], .wrongKind "string" answer)] := by
  cases answer with
  | str s => exact absurd rfl (other s)
  | _ => rfl

/-- Where a list is wanted, anything else is one departure. -/
theorem departures_of_not_list (wanted : shape ≠ .str) (other : ∀ items, answer ≠ .arr items) :
    shape.departures answer = [([], .wrongKind "array" answer)] := by
  cases answer with
  | arr items => exact absurd rfl (other items)
  | _ =>
    cases shape with
    | str => exact absurd rfl wanted
    | list item => cases item <;> rfl
    | set item => cases item <;> rfl

theorem mem_departures_of_not_list (wanted : shape ≠ .str) (other : ∀ items, answer ≠ .arr items)
    {place : List Nat} {d : Departure} :
    (place, d) ∈ shape.departures answer ↔ Departs shape answer place d := by
  rw [departures_of_not_list wanted other, List.mem_singleton]
  constructor
  · rintro ⟨⟩
    exact .notList wanted other
  · intro h
    cases h with
    | notText => exact absurd rfl wanted
    | notList => rfl
    | repeated => exact absurd rfl (other _)
    | item => exact absurd rfl (other _)

/-- The check lists the departures of an answer, at their places, and nothing else. -/
theorem mem_departures (whole : IntegersInSets shape answer) {place : List Nat} {d : Departure} :
    (place, d) ∈ shape.departures answer ↔ Departs shape answer place d := by
  -- on the shape: each item is checked against the shape of items, whatever the item is
  induction shape generalizing answer place d with
  | str =>
    obtain ⟨s, rfl⟩ | other := text_or_not answer
    · refine iff_of_false List.not_mem_nil ?_
      intro h
      cases h with
      | notText other => exact other s rfl
      | notList wanted => exact wanted rfl
    · rw [departures_of_not_text other, List.mem_singleton]
      constructor
      · rintro ⟨⟩
        exact .notText other
      · intro h
        cases h with
        | notText => rfl
        | notList wanted => exact absurd rfl wanted
        | item of => cases of
  | list item ih =>
    obtain ⟨items, rfl⟩ | other := list_or_not answer
    · have inside : ∀ inner, item = some inner → ∀ v ∈ items, IntegersInSets inner v := by
        rintro inner rfl
        exact whole
      rw [departures_list, mem_inItems]
      constructor
      · rintro ⟨inner, i, v, rest, of, here, rfl, below⟩
        exact .item of here ((ih inner of (inside inner of v (List.mem_of_getElem? here))).mp below)
      · intro h
        cases h with
        | notList _ other => exact absurd rfl (other items)
        | item of here below =>
          have found := (ih _ of (inside _ of _ (List.mem_of_getElem? here))).mpr below
          exact ⟨_, _, _, _, of, here, rfl, found⟩
    · exact mem_departures_of_not_list (by rintro ⟨⟩) other
  | set item ih =>
    obtain ⟨items, rfl⟩ | other := list_or_not answer
    · -- below a set all numbers are integers, so those below any set inside it are
      have inside {inner : Shape} {v : Json} (mem : v ∈ items) : IntegersInSets inner v :=
        integersInSets_of_everywhere (whole v mem)
      rw [departures_set, List.mem_append, mem_inItems, mem_repetition whole]
      constructor
      · rintro (⟨inner, i, v, rest, of, here, rfl, below⟩ | ⟨twice, rfl, rfl⟩)
        · exact .item of here ((ih inner of (inside (List.mem_of_getElem? here))).mp below)
        · exact .repeated twice
      · intro h
        cases h with
        | notList _ other => exact absurd rfl (other items)
        | repeated twice => exact .inr ⟨twice, rfl, rfl⟩
        | item of here below =>
          have found := (ih _ of (inside (List.mem_of_getElem? here))).mpr below
          exact .inl ⟨_, _, _, _, of, here, rfl, found⟩
    · exact mem_departures_of_not_list (by rintro ⟨⟩) other

/-- No place is listed twice. -/
theorem places_nodup (shape : Shape) (answer : Json) :
    ((shape.departures answer).map Prod.fst).Nodup := by
  induction shape generalizing answer with
  | str =>
    obtain ⟨s, rfl⟩ | other := text_or_not answer
    · exact List.nodup_nil
    · rw [departures_of_not_text other]
      exact List.nodup_singleton _
  | list item ih =>
    obtain ⟨items, rfl⟩ | other := list_or_not answer
    · rw [departures_list]
      exact inItems_nodup ih
    · rw [departures_of_not_list (by rintro ⟨⟩) other]
      exact List.nodup_singleton _
  | set item ih =>
    obtain ⟨items, rfl⟩ | other := list_or_not answer
    · rw [departures_set, List.map_append]
      rcases repetition_places true (.arr items) items with none | here
      · rw [none, List.append_nil]
        exact inItems_nodup ih
      · -- the list itself is at the empty place, and its items are not
        rw [here, List.nodup_append_comm]
        exact List.nodup_cons.mpr ⟨nil_notMem_inItems, inItems_nodup ih⟩
    · rw [departures_of_not_list (by rintro ⟨⟩) other]
      exact List.nodup_singleton _

/-! ## Fitting and departing -/

/-- An answer that fits departs nowhere. -/
theorem Fits.not_departs (h : Fits shape answer) (place : List Nat) (d : Departure) :
    ¬ Departs shape answer place d := by
  induction h generalizing place d with
  | str s =>
    intro h
    cases h with
    | notText other => exact other s rfl
    | notList wanted => exact wanted rfl
  | @list item items _ ih =>
    intro h
    cases h with
    | notList _ other => exact other items rfl
    | item of here below => exact ih _ of _ (List.mem_of_getElem? here) _ _ below
  | @set item items _ differ ih =>
    intro h
    cases h with
    | notList _ other => exact other items rfl
    | repeated twice => exact twice differ
    | item of here below => exact ih _ of _ (List.mem_of_getElem? here) _ _ below

/-- An answer that departs nowhere fits. -/
theorem fits_of_not_departs (none : ∀ place d, ¬ Departs shape answer place d) :
    Fits shape answer := by
  induction shape generalizing answer with
  | str =>
    obtain ⟨s, rfl⟩ | other := text_or_not answer
    · exact .str s
    · exact absurd (.notText other) (none [] _)
  | list item ih =>
    obtain ⟨items, rfl⟩ | other := list_or_not answer
    · refine .list fun inner of v mem => ih inner of fun place d below => ?_
      obtain ⟨i, here⟩ := List.mem_iff_getElem?.mp mem
      exact none (i :: place) d (.item of here below)
    · exact absurd (.notList (by rintro ⟨⟩) other) (none [] _)
  | set item ih =>
    obtain ⟨items, rfl⟩ | other := list_or_not answer
    · have differ : items.Pairwise (· ≠ ·) :=
        Classical.byContradiction fun twice => none [] _ (.repeated twice)
      refine .set (fun inner of v mem => ih inner of fun place d below => ?_) differ
      obtain ⟨i, here⟩ := List.mem_iff_getElem?.mp mem
      exact none (i :: place) d (.item of here below)
    · exact absurd (.notList (by rintro ⟨⟩) other) (none [] _)

/-! ## The check -/

theorem toList_pointer_cons (i : Nat) (place : List Nat) :
    (pointer (i :: place)).toList = '/' :: (i.repr.toList ++ (pointer place).toList) := by
  simp [pointer, String.join_cons]

/-- A position in a pointer ends where its digits end. -/
theorem takeWhile_position (i : Nat) (place : List Nat) :
    (i.repr.toList ++ (pointer place).toList).takeWhile Char.isDigit = i.repr.toList := by
  have digits : ∀ c ∈ i.repr.toList, c.isDigit = true := by
    intro c mem
    rw [Nat.repr, String.toList_ofList] at mem
    exact Nat.isDigit_of_mem_toDigits (by decide) (by decide) mem
  have stop : (pointer place).toList.takeWhile Char.isDigit = [] := by
    cases place with
    | nil => rfl
    | cons j place =>
      rw [toList_pointer_cons]
      rfl
  rw [List.takeWhile_append_of_pos digits, stop, List.append_nil]

/-- Two places have one pointer only if they are one place. -/
theorem pointer_injective {p q : List Nat} (same : pointer p = pointer q) : p = q := by
  have chars := congrArg String.toList same
  clear same
  -- the first positions agree because both end at the next slash, and so the rests agree
  induction p generalizing q with
  | nil =>
    cases q with
    | nil => rfl
    | cons j q =>
      rw [toList_pointer_cons] at chars
      cases chars
  | cons i p ih =>
    cases q with
    | nil =>
      rw [toList_pointer_cons] at chars
      cases chars
    | cons j q =>
      rw [toList_pointer_cons, toList_pointer_cons] at chars
      have tail := (List.cons.inj chars).2
      have digits : i.repr.toList = j.repr.toList := by
        rw [← takeWhile_position i p, tail, takeWhile_position]
      have rest : (pointer p).toList = (pointer q).toList :=
        List.append_cancel_left (digits ▸ tail)
      rw [Nat.repr, Nat.repr, String.toList_ofList, String.toList_ofList] at digits
      have first : i = j := by
        have value := congrArg (Nat.ofDigitChars 10 · 0) digits
        rwa [Nat.ofDigitChars_toDigits (by decide) (by decide),
          Nat.ofDigitChars_toDigits (by decide) (by decide)] at value
      rw [first, ih rest]

/-- The check refuses an answer for its departures, and only for them. -/
theorem check_of_departures :
    (shape.check answer = .ok () ↔ shape.departures answer = []) ∧
      (shape.departures answer ≠ [] → shape.check answer =
        .error (String.intercalate "; " ((shape.departures answer).map fun (place, d) =>
          pointer place ++ ": " ++ d.message))) := by
  unfold check
  split
  · next none => simp [none]
  · next some => exact ⟨iff_of_false (by rintro ⟨⟩) some, fun _ => rfl⟩

theorem departures_eq_nil_iff (whole : IntegersInSets shape answer) :
    shape.departures answer = [] ↔ Fits shape answer := by
  rw [List.eq_nil_iff_forall_not_mem]
  constructor
  · intro none
    exact fits_of_not_departs fun place d h => none (place, d) ((mem_departures whole).mpr h)
  · rintro fits ⟨place, d⟩ mem
    exact fits.not_departs place d ((mem_departures whole).mp mem)

/-- An answer passes the check exactly if it fits its shape. Another one is refused for reasons that
are its violations of the schema of the shape: they name the places where it departs from the shape
and no others, and no two of them name one place. -/
theorem check_finds_departures (whole : IntegersInSets shape answer) :
    (shape.check answer = .ok () ↔ Fits shape answer) ∧
      (¬ Fits shape answer → ∃ reasons : List (List Nat × Departure),
        shape.check answer = .error (String.intercalate "; "
          (reasons.map fun (place, d) => pointer place ++ ": " ++ d.message)) ∧
        violations shape.schema answer = some reasons ∧
        (∀ place d, (place, d) ∈ reasons ↔ Departs shape answer place d) ∧
        (reasons.map fun (place, _) => pointer place).Nodup) := by
  have none := departures_eq_nil_iff whole
  refine ⟨check_of_departures.1.trans none, ?_⟩
  intro misfit
  refine ⟨shape.departures answer, check_of_departures.2 fun nil => misfit (none.mp nil),
    violations_schema shape answer, fun place d => mem_departures whole, ?_⟩
  have places := (places_nodup shape answer).map @pointer_injective
  rwa [List.map_map] at places

end

/-- Lists of strings of which none is there twice. -/
def nestedShape : Shape :=
  .set (some (.list (some .str)))

/-- An answer with a list that is there twice, and with a number where a string is wanted. -/
def nestedAnswer : Json :=
  .arr [.arr [.str "a"], .arr [.str "a"], .arr [.str "b", .num (.int 1)]]

/-- Both the repetition and what stands inside an item are reported, once each. -/
theorem check_finds_departures_nested : ∃ reasons : List (List Nat × Departure),
    nestedShape.check nestedAnswer = .error (String.intercalate "; "
      (reasons.map fun (place, d) => pointer place ++ ": " ++ d.message)) ∧
    ([], .repeatedItems nestedAnswer) ∈ reasons ∧
    ([2, 1], .wrongKind "string" (.num (.int 1))) ∈ reasons ∧
    (reasons.map fun (place, _) => pointer place).Nodup := by
  have whole : IntegersInSets nestedShape nestedAnswer := by
    simp [nestedShape, nestedAnswer, IntegersInSets, Everywhere, EverywhereIn, Numbers,
      Number.IsInteger]
  have twice : Departs nestedShape nestedAnswer [] (.repeatedItems nestedAnswer) :=
    .repeated (by simp)
  have number : Departs nestedShape nestedAnswer [2, 1] (.wrongKind "string" (.num (.int 1))) :=
    .item rfl rfl (.item rfl rfl (.notText fun _ => by rintro ⟨⟩))
  have misfit : ¬ Fits nestedShape nestedAnswer := fun fits => fits.not_departs _ _ twice
  obtain ⟨reasons, refused, -, listed, once⟩ := (check_finds_departures whole).2 misfit
  exact ⟨reasons, refused, (listed _ _).mpr twice, (listed _ _).mpr number, once⟩

end Assay.Shape
