import Assay.Files.Tree
import Assay.Proofs.Files.Joining

/-!
# Components of paths

The components of a path are its first part, as what it begins with, and then those of the later
parts that name something. So a beginning of the components is written by a path of its own, what is
joined to a path adds components to it, and slashes at the end add none. Walking along the
components of a path leads where walking along its parts leads.
-/

namespace Assay.Files

namespace Path

/-! ## Parts -/

theorem notMem_of_mem_splitOn {c : Char} {text : List Char} :
    ∀ part ∈ text.splitOn c, c ∉ part := by
  induction text with
  | nil => simp
  | cons first rest ih =>
    rw [List.splitOn_cons_eq_if_modifyHead]
    split
    · exact List.forall_mem_cons.mpr ⟨List.not_mem_nil, ih⟩
    · next differ =>
      cases split : rest.splitOn c with
      | nil => exact absurd split (List.splitOn_ne_nil c rest)
      | cons part others =>
        rw [split] at ih
        obtain ⟨head, tail⟩ := List.forall_mem_cons.mp ih
        refine List.forall_mem_cons.mpr ⟨?_, tail⟩
        intro mem
        rcases List.mem_cons.mp mem with rfl | mem
        · exact differ (beq_self_eq_true c)
        · exact head mem

/-- No part of a path has a slash in it. -/
theorem noSlash_of_mem_parts {path part : String} (h : part ∈ parts path) : '/' ∉ part.toList := by
  obtain ⟨chars, mem, rfl⟩ := List.mem_map.mp h
  rw [String.toList_ofList]
  exact notMem_of_mem_splitOn chars mem

theorem parts_ne_nil (path : String) : parts path ≠ [] := by
  simp [parts, List.splitOn_ne_nil]

/-- Parts without slashes are those of the path that they make. -/
theorem parts_intercalate {texts : List String} (nonempty : texts ≠ [])
    (h : ∀ part ∈ texts, '/' ∉ part.toList) : parts (String.intercalate "/" texts) = texts := by
  rw [parts, String.toList_intercalate]
  show ((['/'].intercalate (texts.map String.toList)).splitOn '/').map String.ofList = texts
  rw [List.splitOn_intercalate '/' (List.forall_mem_map.mpr h) (by simpa using nonempty),
    List.map_map]
  simp [Function.comp_def]

/-! ## Components -/

/-- What a path begins with, by its first part. -/
def leading (part : String) : Component :=
  if part = "" then .root else if part = "." then .here else if part = ".." then .up else .name part

@[simp] theorem componentText_leading (first : String) :
    Tree.componentText (leading first) = first := by
  unfold leading
  split
  · next empty => exact empty.symm
  split
  · next dot => exact dot.symm
  split
  · next dots => exact dots.symm
  · rfl

/-- Whether a part names something. -/
def isSolid (part : String) : Bool :=
  ¬ (part = "" ∨ part = ".")

theorem ne_empty_of_isSolid {part : String} (h : isSolid part = true) : part ≠ "" :=
  (not_or.mp (of_decide_eq_true h)).1

theorem componentOf_of_isSolid {part : String} (h : isSolid part = true) :
    componentOf part = some (leading part) := by
  have solid : ¬ (part = "" ∨ part = ".") := of_decide_eq_true h
  rw [not_or] at solid
  rw [componentOf, if_neg (not_or.mpr solid), leading, if_neg solid.1, if_neg solid.2]
  split <;> rfl

theorem componentOf_of_not_isSolid {part : String} (h : isSolid part = false) :
    componentOf part = none := by
  have blank : part = "" ∨ part = "." := Classical.not_not.mp (of_decide_eq_false h)
  rw [componentOf, if_pos blank]

/-- The components of later parts are those of the parts that name something. -/
theorem filterMap_componentOf (texts : List String) :
    texts.filterMap componentOf = (texts.filter isSolid).map leading := by
  induction texts with
  | nil => rfl
  | cons part rest ih =>
    cases solid : isSolid part with
    | false =>
      rw [List.filterMap_cons_none (componentOf_of_not_isSolid solid), ih, List.filter_cons, solid]
      rfl
    | true =>
      rw [List.filterMap_cons_some (componentOf_of_isSolid solid), ih, List.filter_cons, solid]
      rfl

/-- The components of a path are what it begins with and the later parts that name something. -/
theorem components_eq {path first : String} {rest : List String} (nonempty : path ≠ "")
    (h : parts path = first :: rest) :
    components path = leading first :: (rest.filter isSolid).map leading := by
  rw [components, h, ← filterMap_componentOf]
  split
  · next same =>
    obtain ⟨rfl, rfl⟩ := List.cons.inj same
    rw [if_neg nonempty]
    rfl
  · next same =>
    obtain ⟨rfl, rfl⟩ := List.cons.inj same
    rfl
  · next notRoot notHere =>
    have solid : isSolid first = true := by
      refine decide_eq_true (not_or.mpr ⟨?_, ?_⟩)
      · rintro rfl
        exact notRoot rest rfl
      · rintro rfl
        exact notHere rest rfl
    rw [List.filterMap_cons_some (componentOf_of_isSolid solid)]

theorem components_empty : components "" = [] := by
  simp [components, parts]

theorem components_ne_nil {path : String} (nonempty : path ≠ "") : components path ≠ [] := by
  obtain ⟨first, rest, split⟩ := List.exists_cons_of_ne_nil (parts_ne_nil path)
  rw [components_eq nonempty split]
  exact List.cons_ne_nil _ _

/-- Two dots between slashes are a component, wherever they stand. -/
theorem up_mem_components {path : String} (h : ".." ∈ parts path) : .up ∈ components path := by
  have nonempty : path ≠ "" := by
    rintro rfl
    simp [parts] at h
  obtain ⟨first, rest, split⟩ := List.exists_cons_of_ne_nil (parts_ne_nil path)
  rw [components_eq nonempty split]
  rw [split] at h
  rcases List.mem_cons.mp h with rfl | later
  · exact List.mem_cons_self
  · exact List.mem_cons_of_mem _ (List.mem_map.mpr ⟨"..", List.mem_filter.mpr ⟨later, rfl⟩, rfl⟩)

/-- Only a component that goes up is written as two dots. -/
theorem up_mem_of_componentText {path : String} {component : Component}
    (mem : component ∈ components path) (dots : Tree.componentText component = "..") :
    .up ∈ components path := by
  by_cases empty : path = ""
  · subst empty
    simp [components_empty] at mem
  obtain ⟨first, rest, split⟩ := List.exists_cons_of_ne_nil (parts_ne_nil path)
  obtain ⟨part, rfl⟩ : ∃ part, component = leading part := by
    rw [components_eq empty split] at mem
    rcases List.mem_cons.mp mem with same | later
    · exact ⟨first, same⟩
    · obtain ⟨part, -, same⟩ := List.mem_map.mp later
      exact ⟨part, same.symm⟩
  rw [componentText_leading] at dots
  subst dots
  exact mem

/-- The texts of the components are the first part and the later parts that name something. -/
theorem map_componentText {path first : String} {rest : List String} (nonempty : path ≠ "")
    (h : parts path = first :: rest) :
    (components path).map Tree.componentText = first :: rest.filter isSolid := by
  rw [components_eq nonempty h, List.map_cons, List.map_map, componentText_leading]
  refine congrArg (first :: ·) (List.map_congr_left ?_ |>.trans (List.map_id _))
  intro part _
  exact componentText_leading part

theorem isAbsolute_eq (path : String) :
    isAbsolute path = ((components path).head? == some .root) := by
  by_cases empty : path = ""
  · subst empty
    rw [components_empty]
    rfl
  obtain ⟨first, rest, split⟩ := List.exists_cons_of_ne_nil (parts_ne_nil path)
  obtain ⟨c, cs, chars⟩ : ∃ c cs, path.toList = c :: cs :=
    List.exists_cons_of_ne_nil (by simpa using empty)
  rw [components_eq empty split, isAbsolute, chars, List.head?_cons, List.head?_cons]
  rw [parts, chars, List.splitOn_cons_eq_if_modifyHead] at split
  by_cases slash : c = '/'
  · -- a slash ends an empty first part
    rw [if_pos (by simpa using slash)] at split
    obtain ⟨rfl, -⟩ := List.cons.inj split
    subst slash
    rfl
  · rw [if_neg (by simpa using slash)] at split
    have named : first ≠ "" := by
      rintro rfl
      cases others : cs.splitOn '/' with
      | nil => exact List.splitOn_ne_nil _ _ others
      | cons part more =>
        rw [others] at split
        have empty := (List.cons.inj split).1
        simp at empty
    have notRoot : leading first ≠ .root := by
      rw [leading, if_neg named]
      split
      · exact Component.noConfusion
      · split <;> exact Component.noConfusion
    rw [beq_eq_false_iff_ne.mpr (by simpa using slash),
      beq_eq_false_iff_ne.mpr (by simpa using notRoot)]

/-! ## Beginnings of a path -/

/-- The path of the first `count` components of a path. -/
def beginning (path : String) (count : Nat) : String :=
  String.intercalate "/" (((components path).take count).map Tree.componentText)

/-- The path of the first components has just these, unless it is no path at all. -/
theorem components_beginning {path : String} {count : Nat} (some : beginning path count ≠ "") :
    components (beginning path count) = (components path).take count := by
  have nonempty : path ≠ "" := by
    rintro rfl
    simp [beginning, components_empty] at some
  obtain ⟨first, rest, split⟩ := List.exists_cons_of_ne_nil (parts_ne_nil path)
  cases count with
  | zero => simp [beginning] at some
  | succ count =>
    have texts : ((components path).take (count + 1)).map Tree.componentText =
        first :: (rest.filter isSolid).take count := by
      rw [List.map_take, map_componentText nonempty split]
      rfl
    have shorter : parts (beginning path (count + 1)) =
        first :: (rest.filter isSolid).take count := by
      rw [beginning, texts]
      refine parts_intercalate (List.cons_ne_nil _ _) ?_
      intro part mem
      refine noSlash_of_mem_parts (?_ : part ∈ parts path)
      rw [split]
      rcases List.mem_cons.mp mem with rfl | mem
      · exact List.mem_cons_self
      · exact List.mem_cons_of_mem _ (List.mem_filter.mp (List.mem_of_mem_take mem)).1
    have solid : ((rest.filter isSolid).take count).filter isSolid =
        (rest.filter isSolid).take count := by
      refine List.filter_eq_self.mpr ?_
      intro part mem
      exact (List.mem_filter.mp (List.mem_of_mem_take mem)).2
    rw [components_eq some shorter, components_eq nonempty split, solid, List.map_take]
    rfl

theorem isAbsolute_beginning {path : String} {count : Nat} (some : beginning path count ≠ "") :
    isAbsolute (beginning path count) = isAbsolute path := by
  cases count with
  | zero => simp [beginning] at some
  | succ count =>
    rw [isAbsolute_eq, isAbsolute_eq, components_beginning some]
    cases components path <;> rfl

/-! ## Joined paths -/

variable {directory path : String}

/-- The parts that a joined path comes after have the components of the directory. -/
theorem components_of_front {first : String} {rest : List String} (nonempty : directory ≠ "")
    (h : front directory = first :: rest) :
    components directory = leading first :: (rest.filter isSolid).map leading := by
  rcases front_cases nonempty with ⟨init, rfl, before⟩ | ⟨-, before⟩
  · have all : parts (init ++ "/" ++ "") = first :: (rest ++ [""]) := by
      rw [parts_append, ← before, h]
      rfl
    rw [String.append_empty] at all
    rw [components_eq nonempty all, List.filter_append]
    simp [isSolid]
  · exact components_eq nonempty (before ▸ h)

/-- The texts of the components of a directory are the first part that joined paths come after, and
the later ones of these parts that name something. -/
theorem map_componentText_of_front {first : String} {rest : List String}
    (nonempty : directory ≠ "") (h : front directory = first :: rest) :
    (components directory).map Tree.componentText = first :: rest.filter isSolid := by
  rw [components_of_front nonempty h, List.map_cons, List.map_map]
  simp [Function.comp_def]

theorem front_ne_nil (nonempty : directory ≠ "") : front directory ≠ [] := by
  rcases front_cases nonempty with ⟨init, -, before⟩ | ⟨-, before⟩
  · exact before ▸ parts_ne_nil init
  · exact before ▸ parts_ne_nil directory

/-- The components of a relative path that is joined to a directory come after those of the
directory; a dot that it begins with is left out. -/
theorem components_join_relative (nonempty : directory ≠ "") (relative : isAbsolute path = false) :
    components (join directory path) =
      components directory ++ ((parts path).filter isSolid).map leading := by
  obtain ⟨first, rest, begins⟩ := List.exists_cons_of_ne_nil (front_ne_nil nonempty)
  have all := parts_join_relative nonempty relative
  rw [begins, List.cons_append] at all
  have some : join directory path ≠ "" := by
    rw [join, if_neg (by simp [relative, nonempty])]
    split <;> simp [nonempty]
  rw [components_eq some all, components_of_front nonempty begins, List.filter_append,
    List.map_append]
  rfl

/-- A part that is joined to a directory is one more component, if it names something. -/
theorem components_join_part {name : String} (nonempty : directory ≠ "")
    (noSlash : '/' ∉ name.toList) :
    components (join directory name) =
      components directory ++ ([name].filter isSolid).map leading := by
  rw [components_join_relative nonempty (isAbsolute_of_noSlash noSlash), parts_of_noSlash noSlash]

/-- A name that is joined to a directory is one more component. -/
theorem components_join {name : String} (directory : String) (noSlash : '/' ∉ name.toList)
    (solid : isSolid name = true) :
    components (join directory name) = components directory ++ [leading name] := by
  by_cases empty : directory = ""
  · subst empty
    have named := ne_empty_of_isSolid solid
    rw [join, if_pos (.inr rfl), components_eq named (parts_of_noSlash noSlash), components_empty]
    rfl
  · rw [components_join_part empty noSlash]
    simp [solid]

/-- Slashes at the end of a path add no components. -/
theorem components_append_slash (nonempty : path ≠ "") :
    components (path ++ "/") = components path := by
  obtain ⟨first, rest, split⟩ := List.exists_cons_of_ne_nil (parts_ne_nil path)
  have begins : front (path ++ "/") = first :: rest := (front_append_slash path).trans split
  rw [components_of_front (by simp) begins, components_eq nonempty split]

/-! ## Parents -/

theorem intercalate_parts (path : String) : String.intercalate "/" (parts path) = path := by
  apply String.toList_injective
  rw [String.toList_intercalate, parts, List.map_map]
  have texts : String.toList ∘ String.ofList = id := by
    funext chars
    exact String.toList_ofList
  rw [texts, List.map_id]
  exact List.intercalate_splitOn '/'

/-- Parts that end in a name are all kept. -/
theorem trimParts_concat {init : List String} {name : String} (solid : isSolid name = true) :
    trimParts (init ++ [name]) = init ++ [name] := by
  cases init with
  | nil => rfl
  | cons first rest =>
    have named : ¬ (name = "" ∨ name = ".") := of_decide_eq_true solid
    rw [List.cons_append, trimParts, List.reverse_append, List.reverse_singleton,
      List.singleton_append, List.dropWhile_cons_of_neg (by simpa using named)]
    simp

/-- The path of a file in a directory, which ends in a name itself, leaves the directory without the
name of the file. -/
theorem parent_join {init : List String} {name file : String}
    (ends : parts directory = init ++ [name]) (solid : isSolid name = true)
    (noSlash : '/' ∉ file.toList) (solid' : isSolid file = true) :
    parent (join directory file) = directory := by
  have named := ne_empty_of_isSolid solid
  have more : parts directory ≠ [""] := by
    rw [ends]
    simp [List.append_eq_singleton_iff, named]
  have whole : front directory = parts directory := by
    have nonempty : directory ≠ "" := by
      rintro rfl
      exact more (parts_of_noSlash (by simp))
    rcases front_cases nonempty with ⟨before, rfl, -⟩ | ⟨-, whole⟩
    · -- after a slash at its end the last part would be empty
      have all := parts_append before ""
      rw [String.append_empty, ends] at all
      exact absurd (List.singleton_inj.mp (List.append_inj_right' all rfl)) named
    · exact whole
  rw [parent, parts_join directory noSlash, whole, trimParts_concat solid', List.dropLast_concat,
    ends, trimParts_concat solid, ← ends]
  split
  · next single => exact absurd single more
  · exact intercalate_parts directory

end Path

end Assay.Files
