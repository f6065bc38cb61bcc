import Assay.Proofs.Shape.Grammar
import Mathlib.Data.List.TakeWhile

/-!
# Which fault of a text is reported

A text that is no shape may have several faults. The reader takes its names one after the other, as
long as each is allowed and a bracket follows it; `Opens` takes a text apart in this way, without
the reader. Main statement: the first name at which this ends decides what is reported. If it is a
name that is not allowed, it is reported alone; any other fault is reported with the whole text.

Names are looked up on the way in and brackets are closed on the way out, so nothing that stands
before or after an unknown name can hide it.
-/

namespace Assay.Shape

/-- The names that a shape may be written with. -/
def allowedNames : List String :=
  ["str", "list", "List", "set", "Set"]

/-- Whether the names of a text end with a name: it is empty, not allowed, or no bracket follows. -/
def Stops (name rest : String) : Prop :=
  name = "" ∨ name ∉ allowedNames ∨ rest.toList.head? ≠ some '['

/-- A text taken apart: allowed names with an opening bracket right after each, then the name at
which they end, then the rest. Every name is a maximal run of letters. -/
inductive Opens : String → String → String → Prop
  | last {name rest : String} (letters : ∀ c ∈ name.toList, isLetter c = true)
      (whole : ∀ c after, rest.toList = c :: after → isLetter c = false)
      (stops : Stops name rest) : Opens (name ++ rest) name rest
  | outer {name inner last rest : String} (allowed : name ∈ allowedNames)
      (opens : Opens inner last rest) : Opens (name ++ "[" ++ inner) last rest

/-! ## Allowed names -/

/-- A name is allowed when it stands for something. -/
theorem mem_allowedNames_iff {name : String} :
    name ∈ allowedNames ↔ ∃ kind, nameOf name.toList = some kind := by
  constructor
  · intro allowed
    have each : ∀ name ∈ allowedNames, (nameOf name.toList).isSome = true := by decide
    exact Option.isSome_iff_exists.mp (each name allowed)
  · rintro ⟨kind, named⟩
    have spelled := nameOf_eq_some named
    rw [String.ofList_toList] at spelled
    rcases spelled with ⟨-, rfl⟩ | ⟨-, rfl | rfl⟩ | ⟨-, rfl | rfl⟩ <;> decide

theorem not_stops {name rest : String} (allowed : name ∈ allowedNames)
    (bracket : rest.toList.head? = some '[') : ¬ Stops name rest := by
  rintro (rfl | unknown | other)
  · exact absurd allowed (by decide)
  · exact unknown allowed
  · exact other bracket

/-- A name ends before what is no letter. -/
theorem ends_before {c : Char} (other : isLetter c = false) (rest : List Char) :
    ∀ d after, c :: rest = d :: after → isLetter d = false := by
  intro d after same
  rw [← (List.cons.inj same).1]
  exact other

/-- An allowed name and a bracket after it begin with just the letters of the name. -/
theorem takeWhile_opened {name : String} (allowed : name ∈ allowedNames) (inner : String) :
    (name ++ "[" ++ inner).toList.takeWhile isLetter = name.toList ∧
      (name ++ "[" ++ inner).toList.dropWhile isLetter = '[' :: inner.toList := by
  obtain ⟨kind, named⟩ := mem_allowedNames_iff.mp allowed
  have text : (name ++ "[" ++ inner).toList = name.toList ++ '[' :: inner.toList := by simp
  rw [text]
  exact takeWhile_isLetter (letters_of_nameOf named).2 (ends_before (by decide) _)

/-! ## Taking a text apart -/

/-- How a text is taken apart depends on the letters that it begins with and on what follows. -/
theorem Opens.cases {text last rest : String} (h : Opens text last rest) :
    (text.toList.takeWhile isLetter = last.toList ∧
        text.toList.dropWhile isLetter = rest.toList ∧ Stops last rest) ∨
      ∃ name inner, text.toList.takeWhile isLetter = name.toList ∧
        text.toList.dropWhile isLetter = '[' :: inner.toList ∧ name ∈ allowedNames ∧
        Opens inner last rest := by
  cases h with
  | last letters whole stops =>
    obtain ⟨taken, left⟩ := takeWhile_isLetter letters whole
    rw [← String.toList_append] at taken left
    exact .inl ⟨taken, left, stops⟩
  | outer allowed opens =>
    obtain ⟨taken, left⟩ := takeWhile_opened allowed _
    exact .inr ⟨_, _, taken, left, allowed, opens⟩

/-- A text can be taken apart in one way only. -/
theorem Opens.unique {text last rest last' rest' : String} (h : Opens text last rest)
    (h' : Opens text last' rest') : last' = last ∧ rest' = rest := by
  induction count : text.length using Nat.strongRecOn generalizing text with
  | _ size ih =>
    rcases h.cases, h'.cases with
      ⟨⟨taken, left, stops⟩ | ⟨name, inner, taken, left, allowed, opens⟩,
        ⟨taken', left', stops'⟩ | ⟨name', inner', taken', left', allowed', opens'⟩⟩
    · exact ⟨String.toList_inj.mp (taken'.symm.trans taken),
        String.toList_inj.mp (left'.symm.trans left)⟩
    · obtain rfl := String.toList_inj.mp (taken'.symm.trans taken)
      exact absurd stops (not_stops allowed' (by rw [← left, left']; rfl))
    · obtain rfl := String.toList_inj.mp (taken.symm.trans taken')
      exact absurd stops' (not_stops allowed (by rw [← left', left]; rfl))
    · obtain rfl := String.toList_inj.mp (List.cons.inj (left'.symm.trans left)).2
      have shorter : inner'.length < size := by
        have fewer := List.length_dropWhile_le isLetter text.toList
        rw [left, List.length_cons, String.length_toList, String.length_toList] at fewer
        omega
      exact ih _ shorter opens opens' rfl

/-- Every text can be taken apart. -/
theorem exists_opens (text : String) : ∃ last rest, Opens text last rest := by
  -- each name that is followed by a bracket is left out before the rest is taken apart
  induction count : text.length using Nat.strongRecOn generalizing text with
  | _ size ih =>
    let name := String.ofList (text.toList.takeWhile isLetter)
    let after := String.ofList (text.toList.dropWhile isLetter)
    have joined : name ++ after = text := by
      apply String.toList_inj.mp
      simp [name, after]
    by_cases stops : Stops name after
    · refine ⟨name, after, joined ▸ .last ?_ ?_ stops⟩
      · intro c mem
        rw [String.toList_ofList] at mem
        exact List.mem_takeWhile_imp mem
      · intro c rest same
        rw [String.toList_ofList] at same
        have first := List.head?_dropWhile_not isLetter text.toList
        rw [same] at first
        simpa using first
    · obtain ⟨-, allowed, bracket⟩ : name ≠ "" ∧ name ∈ allowedNames ∧
          after.toList.head? = some '[' := by
        simpa [Stops, not_or] using stops
      obtain ⟨inner, same⟩ : ∃ inner, after = "[" ++ String.ofList inner := by
        obtain ⟨inner, chars⟩ := List.head?_eq_some_iff.mp bracket
        exact ⟨inner, String.toList_inj.mp (by simp [chars])⟩
      rw [same, ← String.append_assoc] at joined
      have shorter : (String.ofList inner).length < size := by
        have sum := congrArg String.length joined
        simp only [String.length_append, show "[".length = 1 from rfl] at sum
        omega
      obtain ⟨last, rest, opens⟩ := ih _ shorter (String.ofList inner) rfl
      exact ⟨last, rest, joined ▸ .outer allowed opens⟩

/-! ## What the reader reports -/

/-- What reading comes to when the shape of the items of a name has been read: the bracket must be
closed, and the name must take items. -/
def close (name : Name) (item : Shape) : List Char → Except Stop (Shape × List Char)
  | ']' :: rest =>
    match ofName name (some item) with
    | some shape => .ok (shape, rest)
    | none => .error .malformed
  | _ => .error .malformed

theorem close_eq_error {name : Name} {item : Shape} {rest : List Char} {stop : Stop}
    (h : close name item rest = .error stop) : stop = .malformed := by
  unfold close at h
  split at h
  · split at h
    · cases h
    · exact (Except.error.inj h).symm
  · exact (Except.error.inj h).symm

/-- After a name and a bracket the shape of the items is read first. -/
theorem readShape_opened {name inner : String} {kind : Name}
    (named : nameOf name.toList = some kind) (fuel : Nat) :
    readShape (fuel + 1) (name ++ "[" ++ inner).toList =
      readShape fuel inner.toList >>= fun (item, rest) => close kind item rest := by
  obtain ⟨taken, left⟩ := takeWhile_opened (mem_allowedNames_iff.mpr ⟨kind, named⟩) inner
  rw [readShape, taken, left]
  split
  · next empty =>
    exact absurd empty (letters_of_nameOf named).1
  · simp only [named]
    rfl

/-- A last name that is not allowed is what the reader reports. -/
theorem Opens.readShape_unknown {text last rest : String} (h : Opens text last rest)
    (nonempty : last ≠ "") (unknown : last ∉ allowedNames) {fuel : Nat}
    (room : text.length ≤ fuel) : readShape fuel text.toList = .error (.unknown last.toList) := by
  -- on the brackets that are opened, as the reader has looked up nothing else before the last name
  induction h generalizing fuel with
  | @last name rest letters whole stops =>
    obtain ⟨taken, left⟩ := takeWhile_isLetter letters whole
    have unnamed : nameOf name.toList = none := by
      rw [← Option.not_isSome_iff_eq_none, Option.isSome_iff_exists, ← mem_allowedNames_iff]
      exact unknown
    rw [String.toList_append]
    unfold readShape
    rw [taken, left]
    split
    · next empty =>
      exact absurd (String.toList_eq_nil_iff.mp empty) nonempty
    · simp only [unnamed]
  | @outer name inner last rest allowed opens ih =>
    obtain ⟨kind, named⟩ := mem_allowedNames_iff.mp allowed
    simp only [String.length_append, show "[".length = 1 from rfl] at room
    obtain ⟨n, rfl⟩ : ∃ n, fuel = n + 1 := ⟨fuel - 1, by omega⟩
    rw [readShape_opened named, ih nonempty unknown (by omega)]
    rfl

/-- Any other fault is reported without a name. -/
theorem Opens.readShape_malformed {text last rest : String} (h : Opens text last rest)
    (known : last = "" ∨ last ∈ allowedNames) {fuel : Nat} (room : text.length ≤ fuel)
    {stop : Stop} (failed : readShape fuel text.toList = .error stop) : stop = .malformed := by
  -- whatever goes wrong on the way out is no fault of a name
  induction h generalizing fuel with
  | @last name rest letters whole stops =>
    obtain ⟨taken, left⟩ := takeWhile_isLetter letters whole
    rw [String.toList_append] at failed
    unfold readShape at failed
    rw [taken, left] at failed
    split at failed
    · exact (Except.error.inj failed).symm
    · next nonempty =>
      have allowed : name ∈ allowedNames :=
        known.resolve_left fun empty => nonempty (empty ▸ rfl)
      obtain ⟨kind, named⟩ := mem_allowedNames_iff.mp allowed
      have noBracket : ∀ inner, rest.toList ≠ '[' :: inner := by
        intro inner same
        exact not_stops allowed (by rw [same]; rfl) stops
      split at failed
      · next unnamed =>
        rw [named] at unnamed
        cases unnamed
      · next same => exact absurd same (noBracket _)
      · next same => exact absurd same (noBracket _)
      · split at failed
        · cases failed
        · exact (Except.error.inj failed).symm
  | @outer name inner last rest allowed opens ih =>
    obtain ⟨kind, named⟩ := mem_allowedNames_iff.mp allowed
    simp only [String.length_append, show "[".length = 1 from rfl] at room
    obtain ⟨n, rfl⟩ : ∃ n, fuel = n + 1 := ⟨fuel - 1, by omega⟩
    rw [readShape_opened named] at failed
    cases read : readShape n inner.toList with
    | error first =>
      rw [read] at failed
      obtain rfl := Except.error.inj failed
      exact ih known (by omega) read
    | ok got =>
      rw [read] at failed
      exact close_eq_error failed

/-- What is reported of a text at which the reader stops. -/
def Stop.fault (text : String) : Stop → ShapeError
  | .unknown letters => .unknownType (String.ofList letters)
  | .malformed => .badDescription text

theorem parse_of_error {text : String} {stop : Stop}
    (failed : readShape text.length text.toList = .error stop) :
    parse text = .error (stop.fault text) := by
  rw [parse, String.length_toList, failed]
  cases stop <;> rfl

/-- A text of which all is read but some characters at its end is reported whole. -/
theorem parse_of_ok {text : String} {shape : Shape} {rest : List Char}
    (read : readShape text.length text.toList = .ok (shape, rest)) :
    parse text = .ok shape ∨ parse text = .error (.badDescription text) := by
  rw [parse, String.length_toList, read]
  cases rest with
  | nil => exact .inl rfl
  | cons c rest => exact .inr rfl

/-- **The fault that is reported.** Every text can be taken apart in just one way. An unknown type
is reported just when the name at which its names end is neither empty nor allowed, and it is this
name; all other faults are reported with the whole text. -/
theorem reported_fault (text : String) :
    ∃ last rest, Opens text last rest ∧
      (∀ last' rest', Opens text last' rest' → last' = last ∧ rest' = rest) ∧
      (parse text = .error (.unknownType last) ↔ last ≠ "" ∧ last ∉ allowedNames) ∧
      ∀ e, parse text = .error e → e = .unknownType last ∨ e = .badDescription text := by
  obtain ⟨last, rest, opens⟩ := exists_opens text
  refine ⟨last, rest, opens, fun _ _ => opens.unique, ?_⟩
  by_cases unknown : last ≠ "" ∧ last ∉ allowedNames
  · have stopped := opens.readShape_unknown unknown.1 unknown.2 (Nat.le_refl _)
    have reported : parse text = .error (.unknownType last) := by
      rw [parse_of_error stopped, Stop.fault, String.ofList_toList]
    refine ⟨iff_of_true reported unknown, ?_⟩
    intro e failed
    exact .inl (Except.error.inj (failed.symm.trans reported))
  · have known : last = "" ∨ last ∈ allowedNames :=
      (not_and_or.mp unknown).imp not_not.mp not_not.mp
    have whole : ∀ e, parse text = .error e → e = .badDescription text := by
      intro e failed
      cases read : readShape text.length text.toList with
      | error stop =>
        obtain rfl := opens.readShape_malformed known (Nat.le_refl _) read
        exact Except.error.inj (failed.symm.trans (parse_of_error read))
      | ok got =>
        rcases parse_of_ok read with parsed | reported
        · cases failed.symm.trans parsed
        · exact Except.error.inj (failed.symm.trans reported)
    refine ⟨iff_of_false ?_ unknown, fun e failed => .inr (whole e failed)⟩
    intro reported
    cases whole _ reported

/-- An unknown name is reported although a string is given items around it and brackets are left
open. -/
theorem reported_fault_inner :
    Opens "list[str[Text]x" "Text" "]x" ∧
      parse "list[str[Text]x" = .error (.unknownType "Text") := by
  have opens : Opens "list[str[Text]x" "Text" "]x" := by
    have letters : "Text".toList.all isLetter = true := by decide
    have inner : Opens ("Text" ++ "]x") "Text" "]x" :=
      .last (List.all_eq_true.mp letters) (ends_before (by decide) ['x'])
        (.inr (.inl (by decide)))
    have string : Opens ("str" ++ "[" ++ "Text]x") "Text" "]x" := .outer (by decide) inner
    show Opens ("list" ++ "[" ++ "str[Text]x") "Text" "]x"
    exact .outer (by decide) string
  obtain ⟨last, rest, -, unique, unknown, -⟩ := reported_fault "list[str[Text]x"
  obtain ⟨rfl, rfl⟩ := unique _ _ opens
  exact ⟨opens, unknown.mpr ⟨by decide, by decide⟩⟩

end Assay.Shape
