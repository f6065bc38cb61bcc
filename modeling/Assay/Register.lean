/-!
# Values under names, in order

A register lists named values in the order in which the names were first put in. Putting a value
under a name that is there already replaces the value and leaves every position unchanged, so the
names are pairwise different. `get?` answers with the last value put under a name.
-/

namespace Assay

/-- Puts a value under a name: in the place of the old one, or else at the end. -/
def putEntry (name : String) (value : β) : List (String × β) → List (String × β)
  | [] => [(name, value)]
  | (key, old) :: rest =>
    if key = name then (key, value) :: rest else (key, old) :: putEntry name value rest

/-- Putting a value adds its name at the end, or leaves the names as they are. -/
theorem map_fst_putEntry (name : String) (value : β) (entries : List (String × β)) :
    (putEntry name value entries).map Prod.fst =
      if name ∈ entries.map Prod.fst then entries.map Prod.fst
      else entries.map Prod.fst ++ [name] := by
  induction entries with
  | nil => simp [putEntry]
  | cons entry rest ih =>
    obtain ⟨key, old⟩ := entry
    by_cases h : key = name
    · simp [putEntry, h]
    · have h' : name ≠ key := fun e => h e.symm
      simp only [putEntry, if_neg h, List.map_cons, ih, List.mem_cons, h', false_or]
      split <;> simp

theorem nodup_putEntry {name : String} {value : β} {entries : List (String × β)}
    (h : (entries.map Prod.fst).Nodup) : ((putEntry name value entries).map Prod.fst).Nodup := by
  rw [map_fst_putEntry]
  split
  · exact h
  · next hmem =>
    rw [List.nodup_append]
    refine ⟨h, by simp, ?_⟩
    intro a ha b hb
    rw [List.mem_singleton.1 hb]
    exact fun e => hmem (e ▸ ha)

/-- Named values in the order of the first mention of each name. -/
structure Register (β : Type) where
  entries : List (String × β)
  distinct : (entries.map Prod.fst).Nodup

namespace Register

instance [Repr β] : Repr (Register β) where
  reprPrec r _ := repr r.entries

/-- The register without entries. -/
def empty : Register β := ⟨[], List.nodup_nil⟩

instance : Inhabited (Register β) := ⟨empty⟩

/-- Two registers are equal when they list the same names in the same order with equal values. -/
instance [BEq β] : BEq (Register β) where
  beq a b := a.entries == b.entries

/-- Puts a value under a name. -/
def insert (r : Register β) (name : String) (value : β) : Register β :=
  ⟨putEntry name value r.entries, nodup_putEntry r.distinct⟩

/-- Puts the pairs of a list in, one after the other. -/
def ofList (pairs : List (String × β)) : Register β :=
  pairs.foldl (fun r p => r.insert p.1 p.2) empty

/-- The value under a name. -/
def get? (r : Register β) (name : String) : Option β :=
  r.entries.lookup name

/-- The names, each once, in order. -/
def names (r : Register β) : List String :=
  r.entries.map Prod.fst

/-- The number of names. -/
def size (r : Register β) : Nat :=
  r.entries.length

/-- Whether there is no name at all. -/
def isEmpty (r : Register β) : Bool :=
  r.entries.isEmpty

/-! ## Laws -/

@[ext] theorem ext {a b : Register β} (h : a.entries = b.entries) : a = b := by
  cases a
  cases b
  simp_all

@[simp] theorem entries_empty : (empty : Register β).entries = [] := rfl

@[simp] theorem entries_insert (r : Register β) (name : String) (value : β) :
    (r.insert name value).entries = putEntry name value r.entries := rfl

theorem names_insert (r : Register β) (name : String) (value : β) :
    (r.insert name value).names = if name ∈ r.names then r.names else r.names ++ [name] :=
  map_fst_putEntry name value r.entries

theorem lookup_putEntry (name other : String) (value : β) (entries : List (String × β)) :
    (putEntry name value entries).lookup other =
      if other = name then some value else entries.lookup other := by
  have hself (x : String) (v : β) (es : List (String × β)) :
      ((x, v) :: es).lookup other = if other = x then some v else es.lookup other := by
    by_cases h : other = x
    · simp [h]
    · have hb : (other == x) = false := by simpa using h
      simp [List.lookup_cons, h, hb]
  induction entries with
  | nil => exact hself name value []
  | cons entry rest ih =>
    obtain ⟨key, old⟩ := entry
    by_cases h : key = name
    · subst h
      simp only [putEntry, if_pos, hself]
      split <;> rfl
    · simp only [putEntry, if_neg h, hself, ih]
      by_cases hk : other = key
      · subst hk
        simp [h]
      · simp [hk]

/-- The value put in last under a name is the one found there. -/
theorem get?_insert (r : Register β) (name other : String) (value : β) :
    (r.insert name value).get? other = if other = name then some value else r.get? other :=
  lookup_putEntry name other value r.entries

end Register

end Assay
