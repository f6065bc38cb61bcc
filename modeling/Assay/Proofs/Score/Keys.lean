import Assay.Proofs.Json.Unique
import Assay.Score.Answer

/-!
# Keys of items

Main statement: two items of answers have one key exactly if they are the same document. Strings are
compared by their text and all else by the compact text, so this rests on the compact text telling
documents apart; that a string never has the key of another document is seen from the first
character.
-/

namespace Assay.ItemKey

open Json

/-- An item is a string, or it is compared by its compact text. -/
theorem ofJson_cases (v : Json) :
    (∃ s, v = .str s) ∨ (v.lead ≠ .text ∧ ofJson v = .document v.compact) := by
  cases v with
  | str s => exact .inl ⟨s, rfl⟩
  | bool b => exact .inr ⟨by cases b <;> decide, rfl⟩
  | _ => exact .inr ⟨by simp [lead], rfl⟩

/-- Two items have one key if they have one compact text, and only then. -/
theorem ofJson_eq_iff {v w : Json} (finite : Numbers Number.IsFinite v)
    (finite' : Numbers Number.IsFinite w) :
    ofJson v = ofJson w ↔ compactChars v = compactChars w := by
  have alike (same : compactChars v = compactChars w) : v.lead = w.lead :=
    lead_eq_of_append finite finite' (congrArg (· ++ []) same)
  -- a string and another document differ both in their keys and in how their texts begin
  obtain ⟨s, rfl⟩ | ⟨kind, key⟩ := ofJson_cases v
  · obtain ⟨t, rfl⟩ | ⟨kind', key'⟩ := ofJson_cases w
    · constructor
      · rintro ⟨⟩
        rfl
      · intro same
        obtain ⟨rfl, -⟩ := quoteChars_append_inj (congrArg (· ++ []) same)
        rfl
    · rw [key']
      exact iff_of_false (by rintro ⟨⟩) fun same => kind' (alike same).symm
  · obtain ⟨t, rfl⟩ | ⟨kind', key'⟩ := ofJson_cases w
    · rw [key]
      exact iff_of_false (by rintro ⟨⟩) fun same => kind (alike same)
    · rw [key, key', ItemKey.document.injEq, compact, compact, String.ofList_inj]

/-- Two items have one key exactly if they are the same document, whatever the order in which the
members of their objects were written. -/
theorem ofJson_eq_iff_same {v w : Json} (finite : v.Everywhere (Numbers Number.IsFinite))
    (finite' : w.Everywhere (Numbers Number.IsFinite)) (differ : v.Everywhere NamesDiffer)
    (differ' : w.Everywhere NamesDiffer) :
    (ofJson v.stored = ofJson w.stored ↔ Same v w) ∧
      (v.Everywhere NamesAscend → w.Everywhere NamesAscend →
        (ofJson v = ofJson w ↔ Same v w)) := by
  have stored : ofJson v.stored = ofJson w.stored ↔ Same v w := by
    rw [ofJson_eq_iff (everywhere_stored differ finite).self
      (everywhere_stored differ' finite').self, compactChars_stored_eq_iff differ differ' finite
      finite']
  refine ⟨stored, ?_⟩
  intro ascend ascend'
  rwa [stored_of_namesAscend ascend, stored_of_namesAscend ascend'] at stored

/-- A document whose members ascend, with a string in it that looks like a list. -/
def orderedItem : Json :=
  .obj [("a", .arr []), ("b", .arr [.num (.int 1), .str "[1]"])]

/-- The same document with its members the other way round. -/
def swappedItem : Json :=
  .obj [("b", .arr [.num (.int 1), .str "[1]"]), ("a", .arr [])]

/-- The order of members does not matter, and a string that spells a document is another item. -/
theorem ofJson_eq_iff_same_swapped :
    ofJson swappedItem.stored = ofJson orderedItem.stored ∧
      ofJson orderedItem ≠ ofJson (.str orderedItem.compact) := by
  have finite : orderedItem.Everywhere (Numbers Number.IsFinite) := by
    simp [orderedItem, Everywhere, EverywhereIn, EverywhereUnder, Numbers, Number.IsFinite]
  have differ : orderedItem.Everywhere NamesDiffer := by
    simp [orderedItem, Everywhere, EverywhereIn, EverywhereUnder, NamesDiffer]
  constructor
  · refine (ofJson_eq_iff_same ?_ finite ?_ differ).1.mpr ?_
    · simp [swappedItem, Everywhere, EverywhereIn, EverywhereUnder, Numbers, Number.IsFinite]
    · simp [swappedItem, Everywhere, EverywhereIn, EverywhereUnder, NamesDiffer]
    · have list : Same (.arr [.num (.int 1), .str "[1]"]) (.arr [.num (.int 1), .str "[1]"]) :=
        .arr (.cons (.num rfl) (.cons (.str "[1]") .nil))
      refine .obj ?_ ?_
      · intro name
        simp [or_comm]
      · simp [list, Same.arr]
  · intro same
    have ascend : orderedItem.Everywhere NamesAscend := by
      refine everywhere_obj.mpr ⟨?_, ?_⟩
      · show List.Pairwise _ _
        decide
      · simp [Everywhere, EverywhereIn, NamesAscend]
    have keys := @ofJson_eq_iff_same orderedItem (.str orderedItem.compact) finite trivial differ
      trivial
    have kinds := (keys.2 ascend trivial).mp same
    cases kinds

end Assay.ItemKey
