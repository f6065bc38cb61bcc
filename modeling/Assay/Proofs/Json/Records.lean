import Assay.Proofs.Json.Spacing
import Mathlib.Data.List.Nodup

/-!
# Records are read back from compact text

`Fills` tells that the members of an object, in their order, fill the fields of a draft: each of
them is a field which the draft does not have yet, and its value is read. Such an object is read
into the draft from its compact text, if the draft then has the fields that it must have.
-/

namespace Assay.Json

namespace Format

/-- If the fields of a record have different names, each is found by its own. -/
theorem find?_name {format : Format σ} (distinct : (format.fields.map Field.name).Nodup)
    {field : Field σ} (mem : field ∈ format.fields) :
    (format.fields.find? fun f => f.name == field.name) = some field := by
  cases found : format.fields.find? fun f => f.name == field.name with
  | none =>
    rw [List.find?_eq_none] at found
    exact absurd (beq_self_eq_true field.name) (found field mem)
  | some f =>
    have same : f.name = field.name := by simpa using List.find?_some found
    rw [List.inj_on_of_nodup_map distinct (List.mem_of_find?_eq_some found) mem same]

/-- Members that fill the fields of a draft, one after the other. -/
inductive Fills (format : Format σ) : σ → List (String × Json) → σ → Prop
  | nil {d} : Fills format d [] d
  | cons {d d' last name value members field}
      (found : (format.fields.find? fun field => field.name == name) = some field)
      (absent : field.present d = false)
      (reads : ∀ {rest}, EndsNumber rest →
        field.read d (compactChars value ++ rest) = .ok (d', rest))
      (others : Fills format d' members last) :
      Fills format d ((name, value) :: members) last

variable {format : Format σ} {d d' last : σ} {members : List (String × Json)}

theorem Fills.append {more : List (String × Json)} (h : format.Fills d members d')
    (next : format.Fills d' more last) : format.Fills d (members ++ more) last := by
  induction h with
  | nil => exact next
  | cons found absent reads _ ih => exact .cons found absent reads (ih next)

/-- Whether a draft has all the fields that it must have. -/
def Filled (format : Format σ) (d : σ) : Prop :=
  ∀ field ∈ format.fields, field.required = true → field.present d = true

/-- Once a name is found, a member is read, and reading goes on after it. -/
theorem readMembers_member {name : String} {field : Field σ} {first : Bool}
    {cs value rest : List Char}
    (next : nextName first cs =
      .ok (.inr (name.toList.flatMap escapeChar ++ '"' :: ':' :: (value ++ rest))))
    (found : (format.fields.find? fun field => field.name == name) = some field)
    (absent : field.present d = false) (reads : field.read d (value ++ rest) = .ok (d', rest))
    (b : Char) (bound : List Char) :
    format.readMembers (b :: bound) first d cs = format.readMembers bound false d' rest := by
  have mark : colon (':' :: (value ++ rest)) = .ok (value ++ rest) := rfl
  simp only [readMembers, next, bind, Except.bind, stringBody_escaped, found, absent, mark, reads,
    Bool.false_eq_true, if_false]

/-- The members after the first are read up to the closing brace, and nothing after it. -/
theorem Fills.readMembers (h : format.Fills d members last) (filled : format.Filled last)
    {bound : List Char} (room : members.length < bound.length) (rest : List Char) :
    format.readMembers bound false d (compactMembers members ++ rest) = .ok (last, rest) := by
  -- every member takes one round, and the brace takes the last one
  induction h generalizing bound with
  | @nil d =>
    obtain ⟨b, bound, rfl⟩ := List.exists_cons_of_length_pos room
    have closed : nextName false ('\x7d' :: rest) = .ok (.inl rest) := rfl
    have none : (format.fields.find? fun field => field.required && !field.present d) = none := by
      rw [List.find?_eq_none]
      intro field mem missing
      simp only [Bool.and_eq_true, Bool.not_eq_true'] at missing
      exact Bool.false_ne_true (missing.2.symm.trans (filled field mem missing.1))
    show format.readMembers (b :: bound) false d ('\x7d' :: rest) = _
    simp only [Format.readMembers, closed, bind, Except.bind, none]
  | @cons d d' last name value members field found absent reads others ih =>
    obtain ⟨b, bound, rfl⟩ := List.exists_cons_of_length_pos (Nat.zero_lt_of_lt room)
    have again := ih filled (by simpa using room)
    rw [← again]
    refine readMembers_member ?_ found absent
      (reads (endsNumber_compactMembers members rest)) b bound
    rw [compactMembers, List.cons_append, List.append_assoc, quoteChars_append, List.cons_append,
      List.append_assoc]
    rfl

/-- A record is read back from the compact text of an object whose members fill it. -/
theorem Fills.read {name : String} {value : Json}
    (h : format.Fills d ((name, value) :: members) last) (filled : format.Filled last)
    (rest : List Char) :
    format.read d (compactChars (.obj ((name, value) :: members)) ++ rest) = .ok (last, rest) := by
  cases h with
  | @cons _ d' _ _ _ _ field found absent reads others =>
    have room : members.length <
        (quoteChars name.toList ++ ':' :: (compactChars value ++ compactMembers members) ++
          rest).length := by
      have lt := length_lt_compactMembers members
      simp only [List.length_append, List.length_cons]
      omega
    rw [compactChars, List.cons_append, ← others.readMembers filled room rest]
    refine readMembers_member ?_ found absent
      (reads (endsNumber_compactMembers members rest)) '\x7b' _
    rw [List.append_assoc, quoteChars_append, List.cons_append, List.append_assoc]
    rfl

/-- The same for a whole text. -/
theorem Fills.ofText {name : String} {value : Json}
    (h : format.Fills d ((name, value) :: members) last) (filled : format.Filled last) :
    format.ofText d (compact (.obj ((name, value) :: members))) = .ok last := by
  have reads := h.read filled []
  rw [List.append_nil] at reads
  unfold Format.ofText compact
  rw [String.toList_ofList, readAll, reads]
  rfl

end Format

end Assay.Json
