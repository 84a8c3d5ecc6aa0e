import QueryBench.Command
import QueryBench.World.Read

/-!
# Command line

`querybench COMMAND WORLD [OPTION...]` runs a command in the world that the file `WORLD` describes.
The files a command touches are fetched first; those it changed are stored at the end.
-/
set_option autoImplicit false

open QueryBench

def isThere (path : Text) : IO Bool :=
  try (← IO.FS.realPath path.shown).pathExists catch _ => return false

def isFolderThere (path : Text) : IO Bool :=
  try (← IO.FS.realPath path.shown).isDir catch _ => return false

def stations (path : Text) : List Text :=
  let names := Path.names path
  (List.range names.length).map fun i => Text.join "/" (names.take (i + 1))

/-- The paths where a database may be: its own, and those of the files below the working directory
with its name. -/
def databasePaths (name : Text) : IO (List Text) := do
  let found ← (← IO.currentDir).walkDir
  let paths := found.toList.map fun path => Text.ofString path.toString
  return name :: paths.filter fun path => (Path.split path).2 = name

def fetchPath (content : Text → IO ByteArray) (files : Files) (path : Text) : IO Files :=
  (stations path).foldlM (fun files path => do
    let place := Path.location files.base path
    if ← isFolderThere path then return { files with folders := files.folders ++ [place] }
    else if ← isThere path then return files.put place (← content path).toList
    else return files) files

/-- The files that a command touches. Of a database it only matters that it is there. -/
def fetch (touched : Touched) : IO Files := do
  let base := Path.location [] (← IO.currentDir).toString
  let databases ← match touched.database with
    | some name => databasePaths name
    | none => pure []
  let files ← databases.foldlM (fetchPath fun _ => return .empty) ⟨base, [], []⟩
  touched.paths.foldlM (fetchPath fun path => IO.FS.readBinFile path.shown) files

/-- Stores the folders that were made, and the files of a list of paths that differ from what they
were. -/
def store (paths : List Text) (before after : Files) : IO Unit := do
  for place in after.folders do
    unless before.isFolderAt place do IO.FS.createDirAll (Text.shown ("/" ++ Text.join "/" place))
  for path in paths do
    match after.bytes path, before.bytes path with
    | .ok new, .ok old => if new ≠ old then IO.FS.writeBinFile path.shown ⟨new.toArray⟩
    | .ok new, .error _ => IO.FS.writeBinFile path.shown ⟨new.toArray⟩
    | .error _, _ => pure ()

def exitCode : Fault → UInt32
  | .exit code => (code.shown.toNat?.getD 1).toUInt32
  | _ => 1

def report (fault : Fault) : IO UInt32 := do
  IO.eprintln fault.message.shown
  return exitCode fault

/-- The variables with the given names. -/
def readEnvironment (names : List Text) : IO (Text → Option Text) := do
  let values ← names.mapM fun name => do
    return (name, (← IO.getEnv name.shown).map Text.ofString)
  return fun name => (values.lookup name).join

def perform (name : Text) (command : Command) (world : String) (arguments : List Text) :
    IO UInt32 := do
  match Json.read (← IO.FS.readFile world) with
  | .error fault => report fault
  | .ok doc =>
    let touched := command.touchedBy arguments
    let files ← fetch touched
    let environment ← readEnvironment [Engine.gpt.keyName, Engine.groq.keyName]
    let world := World.ofDoc name "." environment doc
    let (outcome, after) := (command.run world arguments).run.run ⟨Session.start, files⟩
    IO.print after.session.console.shown
    store touched.paths files after.files
    match outcome with
    | .ok _ => return 0
    | .error fault => report fault

def main : List String → IO UInt32
  | name :: world :: arguments =>
    match Command.named? name with
    | some command => perform name command world (arguments.map Text.ofString)
    | none => report CommandLine.Stop.misuse.fault
  | _ => report CommandLine.Stop.misuse.fault
