import Mathlib.Data.List.Basic
import Mathlib.Data.List.Induction

/-!
# The order of first mentions

A list of mentions names things, some of them more than once. `FirstMentions` says of another list
that it has just these things, each once, a thing before another when it was mentioned first. This
is the order of the names of a register and of the columns of a grid. It is kept by one more
mention, which adds at the end what is new, and so it holds of a list without its repetitions.
-/

namespace Assay

variable {α : Type} [DecidableEq α] {mentions listed : List α}

/-- What is mentioned, each once and in the order of the first mentions. -/
structure FirstMentions (mentions listed : List α) : Prop where
  mem_iff : ∀ x, x ∈ listed ↔ x ∈ mentions
  ordered : listed.Pairwise fun x y => mentions.idxOf x < mentions.idxOf y

namespace FirstMentions

theorem nil : FirstMentions ([] : List α) [] where
  mem_iff _ := Iff.rfl
  ordered := List.Pairwise.nil

theorem nodup (h : FirstMentions mentions listed) : listed.Nodup := by
  apply h.ordered.imp
  intro x y before same
  rw [same] at before
  omega

/-- One more mention adds at the end what was not mentioned before. -/
theorem concat (h : FirstMentions mentions listed) (x : α) :
    FirstMentions (mentions ++ [x]) (if x ∈ listed then listed else listed ++ [x]) := by
  -- whatever was mentioned has its first mention where it had it
  have kept : ∀ y ∈ listed, (mentions ++ [x]).idxOf y = mentions.idxOf y := by
    intro y mem
    exact List.idxOf_append_of_mem ((h.mem_iff y).mp mem)
  have ordered : listed.Pairwise fun y z =>
      (mentions ++ [x]).idxOf y < (mentions ++ [x]).idxOf z := by
    apply h.ordered.imp_of_mem
    intro y z memY memZ before
    rwa [kept y memY, kept z memZ]
  split
  · next old =>
    refine ⟨fun y => ?_, ordered⟩
    have known : x ∈ mentions := (h.mem_iff x).mp old
    simp only [h.mem_iff, List.mem_append, List.mem_singleton]
    constructor
    · exact Or.inl
    · rintro (mem | rfl)
      · exact mem
      · exact known
  · next new =>
    refine ⟨fun y => by simp [h.mem_iff], ?_⟩
    rw [List.pairwise_append]
    refine ⟨ordered, List.pairwise_singleton _ _, ?_⟩
    intro y mem z last
    obtain rfl := List.mem_singleton.mp last
    have fresh : z ∉ mentions := mt (h.mem_iff z).mpr new
    have inside := List.idxOf_lt_length_of_mem ((h.mem_iff y).mp mem)
    rw [kept y mem, List.idxOf_append_of_notMem fresh]
    omega

end FirstMentions

theorem eraseDups_concat (mentions : List α) (x : α) :
    (mentions ++ [x]).eraseDups =
      if x ∈ mentions.eraseDups then mentions.eraseDups else mentions.eraseDups ++ [x] := by
  rw [List.eraseDups_append]
  split
  · next old => simp [List.removeAll, List.mem_eraseDups.mp old]
  · next new =>
    have fresh : x ∉ mentions := mt List.mem_eraseDups.mpr new
    simp [List.removeAll, fresh, List.eraseDups_cons]

end Assay
