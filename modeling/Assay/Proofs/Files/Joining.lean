import Assay.Files.Path

/-!
# The parts of joined paths

The parts of a relative path that is joined to a directory come after parts that depend on the
directory alone: all its parts, without the empty one after a slash at its end.
-/

namespace Assay.Files.Path

/-- The parts of a directory that what is joined to it comes after. -/
def front (directory : String) : List String :=
  if directory = "" then []
  else if directory.toList.getLast? = some '/' then (parts directory).dropLast
  else parts directory

variable {directory path name : String}

theorem isAbsolute_of_noSlash (h : '/' ∉ name.toList) : isAbsolute name = false := by
  rw [isAbsolute]
  cases chars : name.toList with
  | nil => rfl
  | cons c cs =>
    rw [chars] at h
    have differ : c ≠ '/' := fun same => h (same ▸ List.mem_cons_self)
    simpa using differ

theorem exists_of_isAbsolute (h : isAbsolute path = true) : ∃ rest, path.toList = '/' :: rest := by
  rw [isAbsolute] at h
  cases chars : path.toList with
  | nil => rw [chars] at h; cases h
  | cons c rest =>
    rw [chars] at h
    obtain rfl : c = '/' := by simpa using h
    exact ⟨rest, rfl⟩

theorem parts_of_noSlash (h : '/' ∉ name.toList) : parts name = [name] := by
  rw [parts, List.splitOn_eq_singleton h]
  show [String.ofList name.toList] = [name]
  rw [String.ofList_toList]

theorem parts_append (directory path : String) :
    parts (directory ++ "/" ++ path) = parts directory ++ parts path := by
  have split : (directory ++ "/" ++ path).toList = directory.toList ++ '/' :: path.toList := by
    simp
  rw [parts, split, List.splitOn_append_cons_self, List.map_append]
  rfl

theorem front_append_slash (init : String) : front (init ++ "/") = parts init := by
  have ends : (init ++ "/").toList.getLast? = some '/' := by simp
  have more : parts (init ++ "/" ++ "") = parts init ++ [""] := parts_append init ""
  rw [String.append_empty] at more
  rw [front, if_neg (by simp), if_pos ends, more, List.dropLast_concat]

/-- What is joined to a directory comes after the parts before the slash that the directory ends in,
or after all its parts. -/
theorem front_cases (nonempty : directory ≠ "") :
    (∃ init, directory = init ++ "/" ∧ front directory = parts init) ∨
      directory.toList.getLast? ≠ some '/' ∧ front directory = parts directory := by
  by_cases slash : directory.toList.getLast? = some '/'
  · obtain ⟨chars, ends⟩ := List.getLast?_eq_some_iff.mp slash
    have before : directory = String.ofList chars ++ "/" := by
      apply String.toList_injective
      rw [ends]
      simp
    exact .inl ⟨String.ofList chars, before, before ▸ front_append_slash _⟩
  · exact .inr ⟨slash, by rw [front, if_neg nonempty, if_neg slash]⟩

/-- The parts of a relative path that is joined to a directory. -/
theorem parts_join_relative (nonempty : directory ≠ "") (relative : isAbsolute path = false) :
    parts (join directory path) = front directory ++ parts path := by
  rw [join, if_neg (by simp [relative, nonempty])]
  rcases front_cases nonempty with ⟨init, rfl, before⟩ | ⟨noSlash, before⟩
  · rw [if_pos (by simp), before]
    exact parts_append init path
  · rw [if_neg noSlash, before]
    exact parts_append directory path

/-- The parts of a name that is joined to a directory. -/
theorem parts_join (directory : String) (h : '/' ∉ name.toList) :
    parts (join directory name) = front directory ++ [name] := by
  have alone := parts_of_noSlash h
  by_cases empty : directory = ""
  · rw [join, if_pos (.inr empty), front, if_pos empty, alone, List.nil_append]
  · rw [parts_join_relative empty (isAbsolute_of_noSlash h), alone]

theorem isAbsolute_join (directory : String) (h : '/' ∉ name.toList) :
    isAbsolute (join directory name) = isAbsolute directory := by
  have relative := isAbsolute_of_noSlash h
  unfold join
  by_cases empty : directory = ""
  · rw [if_pos (.inr empty), empty, relative]
    rfl
  obtain ⟨c, cs, chars⟩ : ∃ c cs, directory.toList = c :: cs := by
    apply List.exists_cons_of_ne_nil
    simpa using empty
  rw [if_neg (by simp [relative, empty])]
  split
  · simp only [isAbsolute, String.toList_append, chars, List.cons_append, List.head?_cons]
  · simp only [isAbsolute, String.toList_append, chars, List.cons_append, List.head?_cons]

end Assay.Files.Path
