import Assay.Proofs.Json.RoundTrip
import Assay.Proofs.Suite.Results

/-!
# The JSON of a summary tells what was put into it

Main statement: the compact and the indented JSON text of a summary are texts of one document, and
read member by member, in the order of the text and with whatever names it repeats, both list each
task once, in the order in which the tasks were first put in, and for each task each metric once, in
its own such order, with the value put there last. That the texts of the finite values are read back
is assumed, for those that the summary has; what is not finite is read back as null.

The document that the reader keeps has its members sorted and one for each name, so it would not
show a lost order or a repeated name. `readObject` therefore reads the members as they stand.
-/

namespace Assay

/-! ## Members as they stand -/

namespace Json

/-- Reads an object, each value by `item`. The members are in the order of the text, and a name that
the text repeats is repeated. -/
def readObject (item : List Char → Except Fault (β × List Char)) (cs : List Char) :
    Except Fault (List (String × β) × List Char) :=
  match skipBlanks cs with
  | '\x7b' :: rest => objectMembers item ('\x7b' :: rest) true rest
  | rest => .error (unwanted "a map" rest)

/-- The members of an object; anything else has none. -/
def members : Json → List (String × Json)
  | .obj members => members
  | _ => []

/-- If every value is read, an object is read as its members stand. -/
theorem readObject_spaced {gaps : Spacing} {depth : Nat}
    {item : List Char → Except Fault (β × List Char)} {kept : Json → β}
    {members : List (String × Json)}
    (reads : ∀ m ∈ members, ∀ {rest}, EndsNumber rest →
      item (gaps.colon ++ (spaced gaps (depth + 1) m.2 ++ rest)) = .ok (kept m.2, rest))
    {gap : List Char} (blank : ∀ c ∈ gap, isBlank c = true) (rest : List Char) :
    readObject item (gap ++ (spaced gaps depth (.obj members) ++ rest)) =
      .ok (members.map fun m => (m.1, kept m.2), rest) := by
  obtain ⟨inner, written, found⟩ := objectMembers_spaced gaps depth item reads rest
  rw [readObject, skipBlanks_append blank, written, skipBlanks_cons (by decide)]
  exact found

end Json

/-! ## What was put under names -/

/-- The names of some pairs, each once and in the order of its first mention, and under each name
what is `same` as the value that the pairs have for it last. -/
structure Tells (puts : List (String × β)) (same : β → γ → Prop) (read : List (String × γ)) :
    Prop where
  names : read.map Prod.fst = (puts.map Prod.fst).eraseDups
  once : (read.map Prod.fst).Nodup
  values : ∀ name, Option.Rel same (puts.reverse.lookup name) (read.lookup name)

/-- The entries of a register tell what was put into it. -/
theorem tells_entries {puts : List (String × β)} {g : β → δ} {r : Register δ}
    (built : r = .ofList (puts.map fun p => (p.1, g p.2))) {same : β → γ → Prop} {f : δ → γ}
    (each : ∀ value, same value (f (g value))) :
    Tells puts same (r.entries.map fun e => (e.1, f e.2)) where
  names := by
    have names := Register.names_ofList (puts.map fun p => (p.1, g p.2))
    rw [← built, Register.names, List.map_map] at names
    rw [List.map_map]
    exact names
  once := by
    rw [List.map_map]
    exact r.distinct
  values := by
    intro name
    have found := Register.get?_ofList (puts.map fun p => (p.1, g p.2)) name
    rw [← built, Register.get?, ← List.map_reverse, Register.lookup_map] at found
    rw [Register.lookup_map, found]
    cases puts.reverse.lookup name with
    | none => exact .none
    | some value => exact .some (each value)

namespace Summary

/-- The summary that values are put into, task by task, and for each task metric by metric. -/
def ofPuts (puts : List (String × List (String × Float))) : Summary :=
  .ofList (puts.map fun (task, values) => (task, .ofList values))

/-- The tasks that a text lists, with the metrics that it lists for each of them. -/
def readMembers (text : String) : Except Json.Fault (List (String × List (String × Json))) :=
  Json.readAll (Json.readObject (Json.readObject (Json.value 0))) text.toList

end Summary

/-! ## The document of a summary -/

namespace Json

theorem ofFloat_rereads {x : Float}
    (reads : x.isFinite = true → parse (floatChars x) = .ok (.num (.float x))) :
    (ofFloat x).Everywhere (Numbers Number.Rereads) := by
  unfold ofFloat
  split
  · next finite => exact ⟨finite, reads finite⟩
  · exact trivial

theorem stored_ofFloat (x : Float) : (ofFloat x).stored = ofFloat x := by
  unfold ofFloat
  split
  · rfl
  · rfl

theorem depth_ofFloat (x : Float) : (ofFloat x).depth = 0 := by
  unfold ofFloat
  split
  · rfl
  · rfl

end Json

namespace Metrics

variable {m : Metrics}

/-- The texts of the finite values are read back when they stand alone. -/
def Rereads (m : Metrics) : Prop :=
  ∀ e ∈ m.entries, e.2.isFinite = true → Json.parse (Json.floatChars e.2) = .ok (.num (.float e.2))

instance (m : Metrics) : Decidable m.Rereads :=
  decidable_of_iff (∀ e ∈ m.entries, e.2.isFinite = true →
    Json.foundFloat e.2 (Json.parse (Json.floatChars e.2)) = true) (by
      simp only [Json.foundFloat_iff]
      rfl)

theorem depth_toJson (m : Metrics) : m.toJson.depth ≤ 1 := by
  refine Json.depth_obj_le.mpr ?_
  intro e mem
  obtain ⟨e, -, rfl⟩ := List.mem_map.mp mem
  exact Nat.le_of_eq (Json.depth_ofFloat e.2)

theorem toJson_rereads (h : m.Rereads) :
    m.toJson.Everywhere (Json.Numbers Json.Number.Rereads) := by
  refine Json.everywhere_obj.mpr ⟨trivial, ?_⟩
  intro e mem
  obtain ⟨e, inside, rfl⟩ := List.mem_map.mp mem
  exact Json.ofFloat_rereads (h e inside)

/-- The metrics of a task are read as they are listed. -/
theorem readObject_toJson (h : m.Rereads) (gaps : Json.Spacing) (depth : Nat) {gap : List Char}
    (blank : ∀ c ∈ gap, Json.isBlank c = true) (rest : List Char) :
    Json.readObject (Json.value 0) (gap ++ (Json.spaced gaps depth m.toJson ++ rest)) =
      .ok (m.toJson.members, rest) := by
  have each : ∀ e ∈ m.toJson.members, ∀ {rest}, Json.EndsNumber rest →
      Json.value 0 (gaps.colon ++ (Json.spaced gaps (depth + 1) e.2 ++ rest)) =
        .ok (id e.2, rest) := by
    intro e mem rest ends
    obtain ⟨e, inside, rfl⟩ := List.mem_map.mp mem
    rw [Json.value_append gaps.blank_colon,
      Json.value_spaced (Json.ofFloat_rereads (h e inside)) gaps (depth + 1)
        (Nat.le_of_eq (Json.depth_ofFloat e.2)) ends, Json.stored_ofFloat]
    rfl
  have same : (m.toJson.members.map fun e => (e.1, id e.2)) = m.toJson.members := List.map_id _
  rw [← same]
  exact Json.readObject_spaced each blank rest

/-- The members of metrics tell what was put into them. -/
theorem tells_members (values : List (String × Float)) :
    Tells values (fun x v => v = Json.ofFloat x) (toJson (.ofList values)).members := by
  have own : (values.map fun p => (p.1, id p.2)) = values := List.map_id _
  exact tells_entries (congrArg Register.ofList own.symm) fun _ => rfl

end Metrics

namespace Summary

variable {s : Summary}

/-- The texts of the finite values of all tasks are read back when they stand alone. -/
def Rereads (s : Summary) : Prop :=
  ∀ t ∈ s.entries, Metrics.Rereads t.2

instance (s : Summary) : Decidable s.Rereads :=
  inferInstanceAs (Decidable (∀ t ∈ s.entries, Metrics.Rereads t.2))

theorem depth_toJson (s : Summary) : s.toJson.depth ≤ 2 := by
  refine Json.depth_obj_le.mpr ?_
  intro t mem
  obtain ⟨t, -, rfl⟩ := List.mem_map.mp mem
  exact Metrics.depth_toJson t.2

theorem toJson_rereads (h : s.Rereads) :
    s.toJson.Everywhere (Json.Numbers Json.Number.Rereads) := by
  refine Json.everywhere_obj.mpr ⟨trivial, ?_⟩
  intro t mem
  obtain ⟨t, inside, rfl⟩ := List.mem_map.mp mem
  exact Metrics.toJson_rereads (h t inside)

/-- A text of a summary is read as its tasks and their metrics are listed. -/
theorem readMembers_spaced (h : s.Rereads) (gaps : Json.Spacing) :
    readMembers (String.ofList (Json.spaced gaps 0 s.toJson)) =
      .ok (s.entries.map fun t => (t.1, t.2.toJson.members)) := by
  have each : ∀ t ∈ s.toJson.members, ∀ {rest}, Json.EndsNumber rest →
      Json.readObject (Json.value 0) (gaps.colon ++ (Json.spaced gaps 1 t.2 ++ rest)) =
        .ok (t.2.members, rest) := by
    -- a closing brace ends the metrics of a task, so it does not matter what follows them
    intro t mem rest _
    obtain ⟨t, inside, rfl⟩ := List.mem_map.mp mem
    exact Metrics.readObject_toJson (h t inside) gaps 1 gaps.blank_colon rest
  have whole := Json.readObject_spaced each (List.forall_mem_nil _) []
  have listed : s.toJson.members.map (fun t => (t.1, t.2.members)) =
      s.entries.map fun t => (t.1, t.2.toJson.members) := List.map_map
  rw [List.nil_append, List.append_nil, listed] at whole
  rw [readMembers, String.toList_ofList, Json.readAll]
  show (Json.readObject (Json.readObject (Json.value 0))
    (Json.spaced gaps 0 (.obj s.toJson.members)) >>= _) = _
  rw [whole]
  rfl

/-- A text of a summary is a text of its document. -/
theorem ofText_spaced (h : s.Rereads) (gaps : Json.Spacing) :
    Json.ofText (String.ofList (Json.spaced gaps 0 s.toJson)) = .ok s.toJson.stored := by
  have shallow : s.toJson.depth ≤ Json.depthLimit :=
    Nat.le_trans (depth_toJson s) (by decide)
  rw [Json.ofText, String.toList_ofList, Json.parse_spaced (toJson_rereads h) shallow gaps]
  rfl

/-- **The JSON of a summary tells what was put into it**, once for each task and metric and in the
order in which they were first put in, and its two texts are texts of one document. -/
theorem json_faithful (puts : List (String × List (String × Float)))
    (rereads : (ofPuts puts).Rereads) :
    ∃ read,
      readMembers (ofPuts puts).toJson.compact = .ok read ∧
      readMembers (ofPuts puts).toJson.pretty = .ok read ∧
      Tells puts (fun values members =>
        Tells values (fun x v => v = Json.ofFloat x) members) read ∧
      Json.ofText (ofPuts puts).toJson.compact = .ok (ofPuts puts).toJson.stored ∧
      Json.ofText (ofPuts puts).toJson.pretty = .ok (ofPuts puts).toJson.stored := by
  have tight : (ofPuts puts).toJson.compact =
      String.ofList (Json.spaced .tight 0 (ofPuts puts).toJson) := by
    rw [Json.compact, Json.spaced_tight]
  have lines : (ofPuts puts).toJson.pretty =
      String.ofList (Json.spaced .lines 0 (ofPuts puts).toJson) := by
    rw [Json.pretty, Json.spaced_lines]
  -- the two texts are one writing with different blanks, and each is read by the same two laws
  rw [tight, lines]
  refine ⟨_, readMembers_spaced rereads .tight, readMembers_spaced rereads .lines, ?_,
    ofText_spaced rereads .tight, ofText_spaced rereads .lines⟩
  exact tells_entries (r := ofPuts puts) (g := .ofList) (f := fun m => m.toJson.members) rfl
    Metrics.tells_members

/-- Names that are empty or have to be escaped, a value that is no number, a metric and a task that
are put in twice, and a task without metrics. -/
def awkwardPuts : List (String × List (String × Float)) :=
  [("b\"\\\n\u0001é😀", [("p", 0.5), ("", 0 / 0), ("p", 0.25)]), ("", [("stale", 1)]), ("a", []),
    ("", [("x", -0.0), ("\u007f/", 1e-7)])]

theorem json_faithful_awkward :
    (ofPuts awkwardPuts).Rereads ∧ ∃ read,
      readMembers (ofPuts awkwardPuts).toJson.compact = .ok read ∧
      readMembers (ofPuts awkwardPuts).toJson.pretty = .ok read ∧
      read.map Prod.fst = ["b\"\\\n\u0001é😀", "", "a"] := by
  have rereads : (ofPuts awkwardPuts).Rereads := by decide +kernel
  obtain ⟨read, compact, pretty, tells, -, -⟩ := json_faithful awkwardPuts rereads
  refine ⟨rereads, read, compact, pretty, tells.names.trans ?_⟩
  decide

end Summary

end Assay
