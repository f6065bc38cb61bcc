import Assay.Files.Search
import Assay.Json.Reader
import Assay.Shape.Check
import Assay.Task.Run

/-!
# Loading tasks

A directory with a task description is a task. Its programs are the files that the file pattern of
the description matches below the directory, in path order, without those below the directory of
the answers; the gold answer of a program is the file of the same name there. The tasks of a base
directory are its direct subdirectories that hold a description. Loading is all or nothing: the
first fault in path order is the failure.
-/

namespace Assay.Task

/-! ## Searching -/

/-- The paths that a pattern matches in a tree, in ascending order. -/
def matching (tree : Files.Tree) (pattern : String) : Except Failure (List String) :=
  inContext ("Invalid glob pattern: " ++ pattern)
    ((tree.search pattern).mapError fun e => .of (.pattern e))

/-- The pattern that matches exactly what `rest` matches below a path. -/
def patternBelow (path rest : String) : String :=
  String.ofList (Files.Pattern.escape path.toList) ++ "/" ++ rest

/-! ## Descriptions -/

/-- The languages of description files. -/
inductive Format where
  | json
  | yaml
  deriving DecidableEq, Repr

/-- The names of description files, in the order in which they are looked for. -/
def descriptionFiles : List (String × Format) :=
  [("metadata.json", .json), ("metadata.yaml", .yaml), ("metadata.yml", .yaml)]

/-- The description of a text. -/
def Format.read (format : Format) (text : String) : Except Failure Description :=
  match format with
  | .json => (Description.ofJson text).mapError fun message => .of (.json message)
  | .yaml => (Description.ofYaml text).mapError fun message => .of (.yaml message)

/-- The description in a directory: the first of the files in a list that is there. -/
def readDescription (tree : Files.Tree) (directory : String) :
    List (String × Format) → Except Failure Description
  | [] => .error (.note ("No task description found in " ++ Text.quotedPath directory))
  | (name, format) :: others => do
    let path := Files.Path.join directory name
    if ← fileContext ("Could not check for " ++ Text.quotedPath path) (tree.tryExists path) then
      let text ← fileContext ("Failed to read " ++ Text.quotedPath path) (tree.readText path)
      inContext ("Invalid task description in " ++ Text.quotedPath path) (format.read text)
    else readDescription tree directory others

/-! ## Programs -/

/-- The gold answer in a file. -/
def readAnswer (tree : Files.Tree) (path : String) : Except Failure Json := do
  let text ← fileContext ("Failed to read " ++ Text.quotedPath path) (tree.readText path)
  inContext ("Invalid JSON answer in " ++ Text.quotedPath path)
    ((Json.ofText text).mapError fun message => .of (.json message))

/-- Checks a gold answer against the declared shape. -/
def checkAnswer (config : TaskConfig) (path : String) (answer : Json) : Except Failure Unit :=
  match config.shape with
  | none => .ok ()
  | some shape =>
    configured ((shape.check answer).mapError fun reason => .answerShape path shape.spell reason)

/-- The program of a source file. -/
def loadProgram (tree : Files.Tree) (config : TaskConfig) (answers path : String) :
    Except Failure Program :=
  match Files.Path.fileName? path with
  | none => .error (.note ("Not a file: " ++ Text.quotedPath path))
  | some name => do
    let text ← fileContext ("Failed to read " ++ Text.quotedPath path) (tree.readText path)
    let answerPath := Files.Path.join answers name
    let gold ← readAnswer tree answerPath
    checkAnswer config answerPath gold
    .ok ⟨name, gold, .file text config.language⟩

/-- The source files of a task: the files that its pattern matches and that are not answers. -/
def sourceFiles (tree : Files.Tree) (config : TaskConfig) (directory : String) :
    Except Failure (List String) := do
  let answers := Files.Path.join directory config.answerPath
  let found ← matching tree (patternBelow directory config.filePattern)
  .ok (found.filter fun path => tree.isFile path && !Files.Path.startsWith path answers)

/-- The programs of a task, in path order. -/
def loadPrograms (tree : Files.Tree) (config : TaskConfig) (directory : String) :
    Except Failure (List Program) := do
  let answers := Files.Path.join directory config.answerPath
  (← sourceFiles tree config directory).mapM fun path =>
    inContext ("Could not read file: " ++ Text.quotedPath path)
      (loadProgram tree config answers path)

/-! ## Tasks -/

/-- Loads the task in a directory. -/
def load (tree : Files.Tree) (directory : String) : Except Failure Task := do
  let description ← readDescription tree directory descriptionFiles
  let invalid := "Invalid task in " ++ Text.quotedPath directory
  let task ← inContext invalid (configured (ofDescription description))
  match task.config.kind with
  | .perFile => .ok { task with programs := ← loadPrograms tree task.config directory }
  | kind => inContext invalid (configured (.error (.unsupportedKind kind.name)))

/-- The directories below a base directory that hold a description, each once, in path order. -/
def directories (tree : Files.Tree) (base : String) : Except Failure (List String) := do
  let found ← descriptionFiles.mapM fun (name, _) =>
    matching tree (patternBelow base ("*/" ++ name))
  .ok (Files.Path.distinct (Files.Path.sort (found.flatten.map Files.Path.parent)))

/-- Loads all tasks below a base directory. -/
def loadAll (tree : Files.Tree) (base : String) : Except Failure (List Task) := do
  (← directories tree base).mapM (load tree)

end Assay.Task
