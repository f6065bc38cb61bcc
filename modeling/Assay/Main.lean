import Assay.CommandLine.Execution
import Assay.Model.Wire
import Std.Async.DNS
import Std.Async.TCP
import Std.Time.DateTime.Timestamp

/-!
# The program

Reads the directories that a command names into a file tree, executes the command, and writes what
has changed. Models are asked over plain TCP connections.
-/

namespace Assay.Main

open Files

/-! ## Files on disk -/

/-- The place that a path names from the current directory, dots resolved as they are written. -/
def placeOf (here : Place) (path : String) : Place :=
  (Path.components path).foldl (fun place component =>
    match component with
    | .root => []
    | .here => place
    | .up => place.dropLast
    | .name s => place ++ [s]) here

/-- The path of a place from the root. -/
def diskPath (place : Place) : String :=
  "/" ++ String.intercalate "/" place

/-- The content of a file with some bytes. -/
def contentOf (bytes : List UInt8) : Content :=
  match Text.Utf8.decode bytes with
  | some text => .text text
  | none => .bytes bytes

/-- Adds what stands at a place on disk, and everything below it, to a tree. -/
partial def readBelow (tree : Tree) (place : Place) : IO Tree := do
  let path ← IO.FS.realPath ⟨diskPath place⟩
  if ← path.isDir then
    (← path.readDir).foldlM (fun tree entry => readBelow tree (place ++ [entry.fileName]))
      (tree.put place .directory)
  else
    let bytes ← IO.FS.readBinFile path
    pure (tree.put place (.file (contentOf bytes.toList)))

/-- Adds what a path names, and the directories on the way to it, to a tree. -/
def readPath (tree : Tree) (path : String) : IO Tree := do
  let place := placeOf tree.here path
  let mut tree := tree
  for i in List.range place.length do
    let step := place.take (i + 1)
    try
      let path ← IO.FS.realPath ⟨diskPath step⟩
      if i + 1 = place.length then tree ← readBelow tree step
      else if ← path.isDir then tree := tree.put step .directory
    catch _ => pure ()
  pure tree

/-- Writes the entries that are new or have changed. -/
def writeChanges (old new : Tree) : IO Unit := do
  for (place, entry) in new.entries do
    if old.look place ≠ some entry then
      match entry with
      | .directory => IO.FS.createDirAll ⟨diskPath place⟩
      | .file (.text text) => IO.FS.writeFile ⟨diskPath place⟩ text
      | .file (.bytes bytes) => IO.FS.writeBinFile ⟨diskPath place⟩ ⟨bytes.toArray⟩

/-! ## Network and time -/

/-- Everything that a server sends until it closes the connection. -/
partial def receiveAll (client : Std.Async.TCP.Socket.Client) (received : ByteArray) :
    Std.Async.Async ByteArray := do
  match ← client.recv? 65536 with
  | some more => receiveAll client (received ++ more)
  | none => pure received

/-- Sends a request over a connection of its own. -/
def exchange (request : Http.Request) : Std.Async.Async (Except Failure Http.Response) := do
  let port := (request.url.port.getD 80).toUInt16
  let addresses ← Std.Async.DNS.getAddrInfo request.url.host.machine (toString port)
  let some address := addresses[0]? | pure (.error (.note "no address for the host"))
  let client ← Std.Async.TCP.Socket.Client.mk
  client.connect
    (match address with
    | .v4 address => .v4 ⟨address, port⟩
    | .v6 address => .v6 ⟨address, port⟩)
  client.send request.wireText.toUTF8
  let received ← receiveAll client ByteArray.empty
  match Http.Response.ofWire received.toList with
  | some response => pure (.ok response)
  | none => pure (.error (.note "invalid response"))

/-- Sends requests over the network, without encryption. -/
def transport : Http.Transport IO := fun request => do
  if request.url.scheme = "https" then
    pure (.error (.note "encrypted connections are not supported"))
  else
    try (exchange request).block
    catch e => pure (.error (.note (toString e)))

/-- The clock of the machine. -/
def clock : Clock IO := do
  pure (← Std.Time.Timestamp.now).toNanosecondsSinceUnixEpoch.val.toNat

/-! ## Commands -/

/-- How the program is used. -/
def usage : String :=
  "Usage: assay run [OPTIONS]\n       assay list [--tasks-directory <DIR>]\n\n" ++
    String.join (CommandLine.runFlags.map fun flag => "  --" ++ flag.name ++ "\n")

/-- Reports an event on one line. -/
def report (event : Event) : IO Unit :=
  let level := if event.level = .warn then "WARN" else "ERROR"
  let fields := event.fields.map fun (name, value) => " " ++ name ++ "=" ++ Text.quoted value
  IO.eprintln (level ++ " " ++ event.message ++ String.join fields)

/-- The tree that a command needs, and the value of the variable that holds the key. -/
def surroundings (command : CommandLine.Command) : IO (Tree × (String → Option String)) := do
  let tree := Tree.empty (placeOf [] (← IO.currentDir).toString)
  let tree ←
    match command with
    | .run options => options.config.elim (pure tree) (readPath tree)
    | .list _ => pure tree
  match command.resolve tree with
  | .error _ => pure (tree, fun _ => none)
  | .ok config =>
    let tree ← readPath tree config.tasksDirectory
    let tree ← config.outputDirectory.elim (pure tree) (readPath tree)
    match config.model with
    | .http _ _ (some name) =>
      let value ← IO.getEnv name
      pure (tree, fun other => if other = name then value else none)
    | _ => pure (tree, fun _ => none)

/-- Executes a command and gives its exit code. -/
def execute (command : CommandLine.Command) : IO UInt32 := do
  let (tree, environment) ← surroundings command
  let finish ← command.execute ⟨clock, transport, environment⟩ tree
  writeChanges tree finish.tree
  finish.events.forM report
  IO.print finish.printed
  match finish.result with
  | .ok () => pure 0
  | .error f =>
    IO.eprint (CommandLine.errorReport f)
    pure 1

end Assay.Main

/-- Reads the arguments and executes the command. -/
def main (args : List String) : IO UInt32 :=
  match Assay.CommandLine.Command.parse args with
  | .ok command => Assay.Main.execute command
  | .error e => do
    if e.exitCode = 0 then IO.print Assay.Main.usage else IO.eprint Assay.Main.usage
    pure e.exitCode.toUInt32
