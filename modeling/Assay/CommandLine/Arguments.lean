import Assay.RunConfig

/-!
# Arguments of the command line

There are two commands: one runs tasks, the other lists them. Options are written `--name value` or
`--name=value`, switches `--name`. An option is settled when the next one begins or the arguments
end; only then its value is looked at. The options of a run override a configuration field by
field.
-/

namespace Assay.CommandLine

/-- Why arguments are no command, or ask for help instead of one. -/
inductive UsageError where
  | unknownArgument
  | invalidValue
  | valueValidation
  | missingRequiredArgument
  | argumentConflict
  | tooManyValues
  | invalidSubcommand
  | displayHelp
  | displayHelpOnMissingCommand
  deriving DecidableEq, Repr

/-! ## Options -/

/-- What the value of an option is. -/
inductive ValueKind where
  /-- A path; it is not empty. -/
  | path
  | text
  /-- A natural number below `2 ^ 64`. -/
  | count
  deriving DecidableEq, Repr

/-- An option; a switch is one without a value. -/
structure Flag where
  name : String
  value : Option ValueKind
  repeatable : Bool
  deriving DecidableEq, Repr

/-- The number that an argument writes; a plus may lead it. -/
def count? (text : String) : Option Nat :=
  let ds := if text.toList.head? = some '+' then text.toList.drop 1 else text.toList
  let n := Decimal.ofDigits ds
  if !ds.isEmpty && ds.all Decimal.isDigit && decide (n < UInt64.size) then some n else none

/-- Checks the value of an option. -/
def ValueKind.check (kind : ValueKind) (value : String) : Except UsageError Unit :=
  match kind with
  | .path => if value = "" then .error .invalidValue else .ok ()
  | .text => .ok ()
  | .count => if (count? value).isSome then .ok () else .error .valueValidation

/-- The options that were settled, with their values in the order of the arguments. -/
abbrev Settled := List (String × String)

/-- Settles an option with the value that was found for it. -/
def settle (given : Settled) (flag : Flag) (value : Option String) : Except UsageError Settled :=
  match flag.value, value with
  | some _, none => .error .invalidValue
  | kind, value =>
    if !flag.repeatable && given.any (·.1 == flag.name) then .error .argumentConflict
    else do
      let value := value.getD ""
      if let some kind := kind then kind.check value
      .ok (given ++ [(flag.name, value)])

/-- Settles the option that waits for being settled, if there is one. -/
def settlePending (given : Settled) : Option (Flag × Option String) → Except UsageError Settled
  | none => .ok given
  | some (flag, value) => settle given flag value

/-- The name in an argument that begins with two dashes, and the value attached to it. -/
def splitLong (cs : List Char) : String × Option String :=
  (String.ofList (cs.takeWhile (· != '=')),
    match cs.dropWhile (· != '=') with
    | [] => none
    | _ :: value => some (String.ofList value))

/-- Reads the arguments of a command. -/
def readOptions (flags : List Flag) :
    Settled → Option (Flag × Option String) → List String → Except UsageError Settled
  | given, pending, [] => settlePending given pending
  | given, pending, argument :: rest =>
    match argument.toList, pending with
    | ['-', '-'], _ => if rest.isEmpty then settlePending given pending else .error .unknownArgument
    | '-' :: '-' :: long, _ =>
      let (name, attached) := splitLong long
      match flags.find? (·.name == name), attached with
      | none, none =>
        if name = "help" then do
          let _ ← settlePending given pending
          .error .displayHelp
        else .error .unknownArgument
      | none, some _ => .error (if name = "help" then .tooManyValues else .unknownArgument)
      | some flag, attached => do
        if flag.value.isNone && attached.isSome then .error .tooManyValues
        else
          let given ← settlePending given pending
          if flag.value.isSome && attached.isNone then
            readOptions flags given (some (flag, none)) rest
          else readOptions flags (← settle given flag attached) none rest
    | ['-'], some (flag, none) => readOptions flags given (some (flag, some "-")) rest
    | ['-'], _ => .error .unknownArgument
    | '-' :: 'h' :: _, _ => do
      let _ ← settlePending given pending
      .error .displayHelp
    | '-' :: _, _ => .error .unknownArgument
    | _, some (flag, none) => readOptions flags given (some (flag, some argument)) rest
    | _, _ => .error .unknownArgument

/-! ## Commands -/

/-- The options of a run. -/
structure RunOptions where
  config : Option String
  tasksDirectory : Option String
  outputDirectory : Option String
  tasks : List String
  httpUrl : Option String
  model : Option String
  keyVariable : Option String
  isolateFailures : Bool
  maxConcurrency : Option Nat
  deriving DecidableEq, Repr

/-- What the arguments ask for. -/
inductive Command where
  | run (options : RunOptions)
  | list (tasksDirectory : String)
  deriving DecidableEq, Repr

/-- The options that a run understands. -/
def runFlags : List Flag := [
  ⟨"config", some .path, false⟩,
  ⟨"tasks-directory", some .path, false⟩,
  ⟨"output-directory", some .path, false⟩,
  ⟨"task", some .text, true⟩,
  ⟨"http-url", some .text, false⟩,
  ⟨"model", some .text, false⟩,
  ⟨"api-key-env", some .text, false⟩,
  ⟨"isolate-failures", none, false⟩,
  ⟨"max-concurrency", some .count, false⟩]

/-- The options that a listing understands. -/
def listFlags : List Flag := [⟨"tasks-directory", some .path, false⟩]

/-- The options of a run as they were settled. -/
def RunOptions.ofSettled (given : Settled) : RunOptions where
  config := given.lookup "config"
  tasksDirectory := given.lookup "tasks-directory"
  outputDirectory := given.lookup "output-directory"
  tasks := (given.filter (·.1 == "task")).map Prod.snd
  httpUrl := given.lookup "http-url"
  model := given.lookup "model"
  keyVariable := given.lookup "api-key-env"
  isolateFailures := (given.lookup "isolate-failures").isSome
  maxConcurrency := (given.lookup "max-concurrency").bind count?

/-- Whether the options of an endpoint are given together: a URL and a model need each other, and a
key needs a URL. -/
def RunOptions.isComplete (o : RunOptions) : Bool :=
  o.httpUrl.isSome == o.model.isSome && (o.keyVariable.isNone || o.httpUrl.isSome)

/-- The names of the commands. -/
def commandNames : List String := ["run", "list", "help"]

/-- The error of the arguments that follow the command for help. -/
def helpError : List String → UsageError
  | [] => .displayHelp
  | [name] => if commandNames.contains name then .displayHelp else .invalidSubcommand
  | _ => .invalidSubcommand

/-- The error of arguments that do not begin with a command. -/
def noCommandError (argument : String) (rest : List String) : UsageError :=
  match argument.toList with
  | ['-', '-'] =>
    match rest with
    | [] => .displayHelpOnMissingCommand
    | name :: _ => if commandNames.contains name then .unknownArgument else .invalidSubcommand
  | '-' :: '-' :: long =>
    match splitLong long with
    | ("help", none) => .displayHelp
    | ("help", some _) => .tooManyValues
    | _ => .unknownArgument
  | ['-'] => .invalidSubcommand
  | '-' :: 'h' :: _ => .displayHelp
  | '-' :: _ => .unknownArgument
  | _ => .invalidSubcommand

/-- The command that some arguments write. -/
def Command.parse : List String → Except UsageError Command
  | [] => .error .displayHelpOnMissingCommand
  | "run" :: rest => do
    let options := RunOptions.ofSettled (← readOptions runFlags [] none rest)
    if options.isComplete then .ok (.run options) else .error .missingRequiredArgument
  | "list" :: rest => do
    let given ← readOptions listFlags [] none rest
    .ok (.list ((given.lookup "tasks-directory").getD RunConfig.defaultTasksDirectory))
  | "help" :: rest => .error (helpError rest)
  | argument :: rest => .error (noCommandError argument rest)

/-! ## Settings -/

/-- The model of an endpoint that the options name. -/
def RunOptions.modelChoice? (o : RunOptions) : Option ModelChoice := do
  .some (.http (← o.httpUrl) (← o.model) o.keyVariable)

/-- The settings of a run after its options have overridden them. -/
def RunOptions.override (o : RunOptions) (c : RunConfig) : RunConfig where
  tasksDirectory := o.tasksDirectory.getD c.tasksDirectory
  outputDirectory := o.outputDirectory <|> c.outputDirectory
  tasks := if o.tasks.isEmpty then c.tasks else some o.tasks
  model := o.modelChoice?.getD c.model
  policy := if o.isolateFailures then .isolate else c.policy
  maxConcurrency := o.maxConcurrency <|> c.maxConcurrency

/-- The settings of a run: those of its configuration file, or the standard ones, overridden by its
options. -/
def RunOptions.resolve (o : RunOptions) (tree : Files.Tree) : Except Failure RunConfig := do
  let config ←
    match o.config with
    | some path => RunConfig.load tree path
    | none => .ok .standard
  .ok (o.override config)

/-- The settings of a command; a listing has a directory of tasks only. -/
def Command.resolve (command : Command) (tree : Files.Tree) : Except Failure RunConfig :=
  match command with
  | .run options => options.resolve tree
  | .list directory => .ok { RunConfig.standard with tasksDirectory := directory }

end Assay.CommandLine
