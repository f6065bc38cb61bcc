import Assay.CommandLine.Arguments
import Assay.Proofs.FirstFailure
import Mathlib.Data.List.Nodup
import Mathlib.Data.List.TakeWhile

/-!
# What arguments give

Options stand in any order, and the value of an option is attached to its name or is the next
argument. `Written` says which options some arguments write. Main statement: the arguments that are
read are just those that write options of which only the repeatable ones occur again, and these
options are what is read, in their order.

The reader settles an option no sooner than the next one begins, so what is read depends on the
option that waits. `Completes` is `Written` with such an option in front.
-/

namespace Assay.CommandLine

/-! ## Writing options -/

/-- An option has this value; a switch has the empty one. -/
def Flag.Takes (flag : Flag) (value : String) : Prop :=
  ∃ kind, flag.value = some kind ∧ kind.check value = .ok ()

/-- A value that can be an argument of its own: it does not look like an option. -/
def IsPlain (value : String) : Prop :=
  value = "-" ∨ value.toList.head? ≠ some '-'

/-- Some arguments write options, in the order of the arguments. Two dashes may end them. -/
inductive Written (flags : List Flag) : Settled → List String → Prop
  | none : Written flags [] []
  | ended : Written flags [] ["--"]
  | switch {flag given args} (known : flag ∈ flags) (bare : flag.value = none)
      (later : Written flags given args) :
      Written flags ((flag.name, "") :: given) (("--" ++ flag.name) :: args)
  | attached {flag value given args} (known : flag ∈ flags) (takes : flag.Takes value)
      (later : Written flags given args) :
      Written flags ((flag.name, value) :: given) (("--" ++ flag.name ++ "=" ++ value) :: args)
  | separate {flag value given args} (known : flag ∈ flags) (takes : flag.Takes value)
      (plain : IsPlain value) (later : Written flags given args) :
      Written flags ((flag.name, value) :: given) (("--" ++ flag.name) :: value :: args)

/-- An option that occurs again is one that may. -/
def Unrepeated (flags : List Flag) (given : Settled) : Prop :=
  given.Pairwise fun a b => a.1 = b.1 → ∃ flag ∈ flags, flag.name = b.1 ∧ flag.repeatable = true

/-- Options can be told apart by their names, and these from the values that are attached. -/
structure Distinguished (flags : List Flag) : Prop where
  names : (flags.map Flag.name).Nodup
  solid : ∀ flag ∈ flags, flag.name ≠ "" ∧ '=' ∉ flag.name.toList

variable {flags : List Flag} {flag : Flag} {given settled : Settled} {args : List String}

/-! ## Names and values in one argument -/

theorem splitLong_of_solid {name : List Char} (solid : '=' ∉ name) :
    splitLong name = (String.ofList name, none) := by
  have all : ∀ c ∈ name, (c != '=') = true := by
    intro c mem
    exact bne_iff_ne.mpr (ne_of_mem_of_not_mem mem solid)
  rw [splitLong, List.takeWhile_eq_self_iff.mpr all, List.dropWhile_eq_nil_iff.mpr all]

theorem splitLong_of_attached {name : List Char} (solid : '=' ∉ name) (value : List Char) :
    splitLong (name ++ '=' :: value) = (String.ofList name, some (String.ofList value)) := by
  have all : ∀ c ∈ name, (c != '=') = true := by
    intro c mem
    exact bne_iff_ne.mpr (ne_of_mem_of_not_mem mem solid)
  rw [splitLong, List.takeWhile_append_of_pos all, List.dropWhile_append_of_pos all]
  simp

/-- What is split was a name alone, or a name with a value attached to it. -/
theorem splitLong_cases (long : List Char) :
    splitLong long = (String.ofList long, none) ∨
      ∃ name value, long = name ++ '=' :: value ∧
        splitLong long = (String.ofList name, some (String.ofList value)) := by
  by_cases solid : '=' ∈ long
  · obtain ⟨name, value, rfl, first⟩ := List.eq_append_cons_of_mem solid
    exact .inr ⟨name, value, rfl, splitLong_of_attached first value⟩
  · exact .inl (splitLong_of_solid solid)

/-- The first option with a name is the only one. -/
theorem find?_name (h : Distinguished flags) (known : flag ∈ flags) :
    flags.find? (fun other => other.name == flag.name) = some flag := by
  obtain ⟨other, found⟩ :
      ∃ other, flags.find? (fun other => other.name == flag.name) = some other := by
    rw [← Option.isSome_iff_exists, List.find?_isSome]
    exact ⟨flag, known, by simp⟩
  have name : other.name = flag.name := by simpa using List.find?_some found
  rw [found, List.inj_on_of_nodup_map h.names (List.mem_of_find?_eq_some found) known name]

/-! ## Settling -/

/-- Which text is the value of an option that is settled with what was found for it. -/
def Flag.Fits (flag : Flag) (value : Option String) (text : String) : Prop :=
  (flag.value = none ∧ text = value.getD "") ∨ (value = some text ∧ flag.Takes text)

/-- An option that is added is none that occurs again, or it is repeatable. -/
theorem unrepeated_concat (h : Distinguished flags) (known : flag ∈ flags)
    (clean : Unrepeated flags given) (text : String) :
    Unrepeated flags (given ++ [(flag.name, text)]) ↔
      (!flag.repeatable && given.any fun earlier => earlier.1 == flag.name) = false := by
  have only : (∃ other ∈ flags, other.name = flag.name ∧ other.repeatable = true) ↔
      flag.repeatable = true := by
    constructor
    · rintro ⟨other, mem, name, again⟩
      rwa [List.inj_on_of_nodup_map h.names mem known name] at again
    · exact fun again => ⟨flag, known, rfl, again⟩
  unfold Unrepeated at clean ⊢
  rw [List.pairwise_append]
  simp only [clean, List.pairwise_singleton, true_and, List.mem_singleton, forall_eq, only]
  cases flag.repeatable with
  | true => simp
  | false => simp

/-- An option is settled when its value fits and it has not occurred before, if it may not. -/
theorem settle_eq_ok_iff (h : Distinguished flags) (known : flag ∈ flags) (value : Option String)
    (clean : Unrepeated flags given) :
    settle given flag value = .ok settled ↔
      ∃ text, flag.Fits value text ∧ settled = given ++ [(flag.name, text)] ∧
        Unrepeated flags settled := by
  -- with a text whose check passes, what remains to be seen is whether the option occurs again
  have append (text : String) : (if (!flag.repeatable && given.any fun earlier =>
      earlier.1 == flag.name) = true then Except.error UsageError.argumentConflict
        else .ok (given ++ [(flag.name, text)])) = .ok settled ↔
      settled = given ++ [(flag.name, text)] ∧ Unrepeated flags settled := by
    have clean := unrepeated_concat h known clean text
    split
    · next again =>
      refine iff_of_false (by simp) ?_
      rintro ⟨rfl, once⟩
      rw [clean, again] at once
      cases once
    · next fresh =>
      rw [Bool.not_eq_true, ← clean] at fresh
      constructor
      · rintro ⟨⟩
        exact ⟨rfl, fresh⟩
      · rintro ⟨rfl, -⟩
        rfl
  unfold settle Flag.Fits Flag.Takes
  cases takes : flag.value with
  | none => simpa using append (value.getD "")
  | some kind =>
    cases value with
    | none => simp
    | some text =>
      cases check : kind.check text with
      | error e =>
        refine iff_of_false ?_ (by simp [check])
        simp only [Bind.bind, Except.bind, Option.getD_some, check]
        split
        · simp
        · simp
      | ok => simpa [check, Bind.bind, Except.bind] using append text

theorem Unrepeated.front {front back : Settled} (h : Unrepeated flags (front ++ back)) :
    Unrepeated flags front :=
  (List.pairwise_append.mp h).1

theorem settle_of_fits (h : Distinguished flags) (known : flag ∈ flags) {value : Option String}
    {text : String} (fits : flag.Fits value text)
    (once : Unrepeated flags (given ++ [(flag.name, text)])) :
    settle given flag value = .ok (given ++ [(flag.name, text)]) :=
  (settle_eq_ok_iff h known value once.front).mpr ⟨text, fits, rfl, once⟩

/-! ## Reading one argument -/

/-- A name is looked up among the options, and the option that waits is settled before it. -/
theorem readOptions_long {argument : String} {long : List Char} {attached : Option String}
    {pending : Option (Flag × Option String)} {earlier : Settled}
    (chars : argument.toList = '-' :: '-' :: long) (nonempty : long ≠ [])
    (split : splitLong long = (flag.name, attached))
    (found : flags.find? (fun other => other.name == flag.name) = some flag)
    (before : settlePending given pending = .ok earlier)
    (fits : (flag.value.isNone && attached.isSome) = false) :
    readOptions flags given pending (argument :: args) =
      if flag.value.isSome && attached.isNone then readOptions flags earlier (some (flag, none)) args
      else settle earlier flag attached >>= fun given => readOptions flags given none args := by
  rw [readOptions.eq_3 _ _ _ _ _ long nonempty chars, split]
  simp only [found, fits, before]
  rfl

/-- What does not look like an option is the value of the option that waits for one. -/
theorem readOptions_value {value : String} (plain : IsPlain value) :
    readOptions flags given (some (flag, none)) (value :: args) =
      readOptions flags given (some (flag, some value)) args := by
  rcases plain with rfl | plain
  · rfl
  · have undashed : ∀ cs, value.toList ≠ '-' :: cs := by
      intro cs chars
      simp [chars] at plain
    apply readOptions.eq_8 <;> simp [undashed]

theorem Distinguished.splitLong_name (h : Distinguished flags) (known : flag ∈ flags) :
    splitLong flag.name.toList = (flag.name, none) := by
  rw [splitLong_of_solid (h.solid flag known).2, String.ofList_toList]

theorem Distinguished.splitLong_attached (h : Distinguished flags) (known : flag ∈ flags)
    (value : String) :
    splitLong (flag.name.toList ++ '=' :: value.toList) = (flag.name, some value) := by
  rw [splitLong_of_attached (h.solid flag known).2, String.ofList_toList, String.ofList_toList]

/-! ## What was written is read -/

/-- Once the option that waits is settled, the options that the arguments write are added to it. -/
theorem readOptions_of_written (h : Distinguished flags) {new : Settled}
    (written : Written flags new args) {pending : Option (Flag × Option String)}
    {earlier : Settled} (before : settlePending given pending = .ok earlier)
    (once : Unrepeated flags (earlier ++ new)) :
    readOptions flags given pending args = .ok (earlier ++ new) := by
  induction written generalizing given pending earlier with
  | none => rw [readOptions, before, List.append_nil]
  | ended =>
    rw [readOptions.eq_2 _ _ _ _ _ rfl, List.append_nil]
    exact before
  | @switch flag later args known bare _ ih =>
    have chars : ("--" ++ flag.name).toList = '-' :: '-' :: flag.name.toList := by simp
    have nonempty : flag.name.toList ≠ [] := by simpa using (h.solid flag known).1
    rw [readOptions_long chars nonempty (h.splitLong_name known) (find?_name h known) before
      (by simp), if_neg (by simp [bare])]
    rw [List.append_cons] at once ⊢
    rw [settle_of_fits h known (.inl ⟨bare, rfl⟩) once.front]
    exact ih rfl once
  | @attached flag value later args known takes _ ih =>
    have chars : ("--" ++ flag.name ++ "=" ++ value).toList =
        '-' :: '-' :: (flag.name.toList ++ '=' :: value.toList) := by simp
    obtain ⟨kind, valued, check⟩ := takes
    rw [readOptions_long chars (by simp) (h.splitLong_attached known value) (find?_name h known)
      before (by simp [valued]), if_neg (by simp)]
    rw [List.append_cons] at once ⊢
    rw [settle_of_fits h known (.inr ⟨rfl, kind, valued, check⟩) once.front]
    exact ih rfl once
  | @separate flag value later args known takes plain _ ih =>
    have chars : ("--" ++ flag.name).toList = '-' :: '-' :: flag.name.toList := by simp
    have nonempty : flag.name.toList ≠ [] := by simpa using (h.solid flag known).1
    obtain ⟨kind, valued, check⟩ := takes
    rw [readOptions_long chars nonempty (h.splitLong_name known) (find?_name h known) before
      (by simp), if_pos (by simp [valued]), readOptions_value plain]
    rw [List.append_cons] at once ⊢
    exact ih (settle_of_fits h known (.inr ⟨rfl, kind, valued, check⟩) once.front) once

/-! ## What is read was written -/

/-- The option that waits, and the arguments after it, write these options. An option without its
value has it in the next argument. -/
inductive Completes (flags : List Flag) :
    Option (Flag × Option String) → Settled → List String → Prop
  | none {new args} (written : Written flags new args) : Completes flags none new args
  | held {flag value new args} (takes : Flag.Takes flag value) (written : Written flags new args) :
      Completes flags (some (flag, some value)) ((flag.name, value) :: new) args
  | waiting {flag value new args} (takes : Flag.Takes flag value) (plain : IsPlain value)
      (written : Written flags new args) :
      Completes flags (some (flag, .none)) ((flag.name, value) :: new) (value :: args)

/-- An option that waits is one of the options and takes a value. -/
def Waits (flags : List Flag) (pending : Option (Flag × Option String)) : Prop :=
  ∀ flag value, pending = some (flag, value) → flag ∈ flags ∧ flag.value ≠ none

/-- An option that waits for its value still waits when that is known. -/
theorem Waits.held (waits : Waits flags (some (flag, none))) (value : String) :
    Waits flags (some (flag, some value)) := by
  rintro _ _ ⟨⟩
  exact waits flag none rfl

/-- What waits is settled with its own value, and so it stands before what follows. -/
theorem settlePending_eq_ok (h : Distinguished flags) {pending : Option (Flag × Option String)}
    (waits : Waits flags pending) (clean : Unrepeated flags given)
    (before : settlePending given pending = .ok settled) :
    ∃ held, settled = given ++ held ∧ Unrepeated flags settled ∧
      ∀ new args, Written flags new args → Completes flags pending (held ++ new) args := by
  cases pending with
  | none =>
    obtain rfl := Except.ok.inj before
    exact ⟨[], by simp, clean, fun _ _ => .none⟩
  | some waiting =>
    obtain ⟨flag, value⟩ := waiting
    obtain ⟨known, valued⟩ := waits flag value rfl
    obtain ⟨text, fits, rfl, once⟩ := (settle_eq_ok_iff h known value clean).mp before
    rcases fits with ⟨bare, -⟩ | ⟨rfl, takes⟩
    · exact absurd bare valued
    · exact ⟨_, rfl, once, fun _ _ => .held takes⟩

/-- An argument that was split into a name and perhaps a value has been written with them. -/
theorem argument_of_splitLong {argument name : String} {long : List Char} {attached : Option String}
    (chars : argument.toList = '-' :: '-' :: long) (split : splitLong long = (name, attached)) :
    (attached = none ∧ argument = "--" ++ name) ∨
      ∃ value, attached = some value ∧ argument = "--" ++ name ++ "=" ++ value := by
  rcases splitLong_cases long with whole | ⟨front, back, rfl, parts⟩
  · obtain ⟨rfl, rfl⟩ := Prod.mk.inj (split.symm.trans whole)
    refine .inl ⟨rfl, String.toList_inj.mp ?_⟩
    simp [chars]
  · obtain ⟨rfl, rfl⟩ := Prod.mk.inj (split.symm.trans parts)
    refine .inr ⟨_, rfl, String.toList_inj.mp ?_⟩
    simp [chars]

/-- An option that is settled at once has been written in one argument. -/
theorem Written.cons {argument text : String} {long : List Char} {attached : Option String}
    {new : Settled} (known : flag ∈ flags) (chars : argument.toList = '-' :: '-' :: long)
    (split : splitLong long = (flag.name, attached)) (fits : flag.Fits attached text)
    (bare : ¬ (flag.value.isNone && attached.isSome) = true) (later : Written flags new args) :
    Written flags ((flag.name, text) :: new) (argument :: args) := by
  rcases argument_of_splitLong chars split with ⟨rfl, rfl⟩ | ⟨value, rfl, rfl⟩
  · rcases fits with ⟨none, rfl⟩ | ⟨wrong, -⟩
    · exact .switch known none later
    · cases wrong
  · rcases fits with ⟨none, -⟩ | ⟨same, takes⟩
    · simp [none] at bare
    · obtain rfl := Option.some.inj same
      exact .attached known takes later

/-- What is read are the options that the waiting one and the arguments write. -/
theorem completes_of_readOptions (h : Distinguished flags)
    {pending : Option (Flag × Option String)} (waits : Waits flags pending)
    (clean : Unrepeated flags given) (read : readOptions flags given pending args = .ok settled) :
    ∃ new, Completes flags pending new args ∧ settled = given ++ new ∧
      Unrepeated flags settled := by
  fun_induction readOptions flags given pending args with
  | case1 given pending =>
    obtain ⟨held, rfl, once, completes⟩ := settlePending_eq_ok h waits clean read
    exact ⟨held ++ [], completes _ _ .none, by simp, once⟩
  | case2 given pending argument rest chars last =>
    obtain rfl : argument = "--" := String.toList_inj.mp chars
    obtain rfl := List.isEmpty_iff.mp last
    obtain ⟨held, rfl, once, completes⟩ := settlePending_eq_ok h waits clean read
    exact ⟨held ++ [], completes _ _ .ended, by simp, once⟩
  | case4 given pending argument rest long nonempty chars absent split =>
    obtain ⟨_, -, wrong⟩ := bind_eq_ok.mp read
    cases wrong
  | case8 given pending argument rest long nonempty chars name flag attached found fits split
      ih_waiting ih_settled =>
    have known := List.mem_of_find?_eq_some found
    obtain rfl : flag.name = name := by simpa using List.find?_some found
    rw [bind_eq_ok] at read
    obtain ⟨earlier, before, read⟩ := read
    obtain ⟨held, rfl, clean, completes⟩ := settlePending_eq_ok h waits clean before
    split at read
    · -- the value is still to come, so the option waits for the next argument
      next bare =>
      obtain ⟨valued, rfl⟩ : flag.value.isSome = true ∧ attached = none := by simpa using bare
      have waits : Waits flags (some (flag, none)) := by
        rintro _ _ ⟨⟩
        exact ⟨known, Option.isSome_iff_ne_none.mp valued⟩
      obtain ⟨new, completed, rfl, once⟩ := ih_waiting _ waits clean read
      cases completed with
      | waiting takes plain written =>
        obtain ⟨-, rfl⟩ | ⟨_, wrong, -⟩ := argument_of_splitLong chars split
        · exact ⟨_, completes _ _ (.separate known takes plain written), by simp, once⟩
        · cases wrong
    · rw [bind_eq_ok] at read
      obtain ⟨later, settles, read⟩ := read
      obtain ⟨text, suits, rfl, clean⟩ := (settle_eq_ok_iff h known attached clean).mp settles
      obtain ⟨new, completed, rfl, once⟩ := ih_settled _ (by simp [Waits]) clean read
      cases completed with
      | none written =>
        exact ⟨_, completes _ _ (.cons known chars split suits fits written), by simp, once⟩
  | case9 given argument rest flag chars ih =>
    obtain rfl : argument = "-" := String.toList_inj.mp chars
    obtain ⟨new, completed, rfl, once⟩ := ih (waits.held _) clean read
    cases completed with
    | held takes written => exact ⟨_, .waiting takes (.inl rfl) written, rfl, once⟩
  | case11 given pending argument rest tail chars =>
    obtain ⟨_, -, wrong⟩ := bind_eq_ok.mp read
    cases wrong
  | case13 given argument rest flag _ _ _ _ undashed ih =>
    have plain : IsPlain argument := by
      refine .inr fun dash => ?_
      obtain ⟨tail, chars⟩ := List.head?_eq_some_iff.mp dash
      exact undashed tail chars
    obtain ⟨new, completed, rfl, once⟩ := ih (waits.held _) clean read
    cases completed with
    | held takes written => exact ⟨_, .waiting takes plain written, rfl, once⟩
  | case3 | case5 | case6 | case7 | case10 | case12 | case14 => cases read

/-- **The arguments that are read are those that write options**, of which only the repeatable ones
occur again, and these options are what is read. -/
theorem readOptions_eq_ok_iff (h : Distinguished flags) :
    readOptions flags [] none args = .ok settled ↔
      Written flags settled args ∧ Unrepeated flags settled := by
  constructor
  · intro read
    obtain ⟨new, completed, rfl, once⟩ :=
      completes_of_readOptions h (by simp [Waits]) List.Pairwise.nil read
    cases completed with
    | none written => exact ⟨written, once⟩
  · rintro ⟨written, once⟩
    have before : settlePending [] none = .ok [] := rfl
    exact readOptions_of_written h written before once

end Assay.CommandLine
