import QueryBench.Path
import QueryBench.Text.Line

/-!
# Files

Files and folders, each known by the names that lead to it from the top. A path is followed name by
name, and each name but the last must be that of a folder.

Main definitions: `Files`, `Files.find`, `Files.read`, `Files.target`, `Files.write`,
`Files.append`, `Files.makeFolders`, `Files.Handle`.
-/
set_option autoImplicit false

namespace QueryBench

/-- The names that lead from the top to a file or folder. -/
abbrev Location := List Text

/-- The working directory, the folders there are beside those that hold something, and the bytes of
the files. -/
structure Files where
  base : Location
  folders : List Location
  contents : List (Location × List UInt8)
  deriving Inhabited

namespace Files

def isFolderAt (files : Files) (place : Location) : Bool :=
  place.isPrefixOf files.base || files.folders.any (place.isPrefixOf ·) ||
    files.contents.any fun f => place.isPrefixOf f.1 && place.length < f.1.length

def isAt (files : Files) (place : Location) : Bool :=
  files.isFolderAt place || (files.contents.lookup place).isSome

/-! ## Following a path -/

def start (files : Files) (path : Text) : Location :=
  if Path.isAbsolute path then [] else files.base

def step (files : Files) (place : Location) (name : Text) : Except Path.Error Location :=
  if name = "" || name = "." then .ok place
  else if name = ".." then .ok place.dropLast
  else if Path.nameLimit < Path.byteLength name then .error .tooLong
  else if files.isAt (place ++ [name]) then .ok (place ++ [name])
  else .error .missing

def follow (files : Files) (place : Location) : List Text → Except Path.Error Location
  | [] => .ok place
  | name :: rest =>
    if files.isFolderAt place then do
      let next ← files.step place name
      follow files next rest
    else .error .notFolder

def find (files : Files) (path : Text) : Except Path.Error Location := do
  Path.check path
  files.follow (files.start path) (Path.names path)

def exist (files : Files) (path : Text) : Bool :=
  (files.find path).isOk

def isFolder (files : Files) (path : Text) : Bool :=
  match files.find path with
  | .ok place => files.isFolderAt place
  | .error _ => false

def parent (files : Files) (path : Text) : Except Path.Error (Location × Text) := do
  Path.check path
  let names := Path.names (Path.withoutSlashes path)
  let place ← files.follow (files.start path) names.dropLast
  if files.isFolderAt place then return (place, names.getLast?.getD "") else throw .notFolder

def isRelative (name : Text) : Bool :=
  name = "" || name = "." || name = ".."

/-! ## Reading -/

def bytes (files : Files) (path : Text) : Except Path.Error (List UInt8) := do
  let place ← files.find path
  match files.contents.lookup place with
  | some content => return content
  | none => throw .isFolder

def canRead (files : Files) (path : Text) : Except Fault Unit := do
  let _ ← (files.bytes path).mapError (·.fault path)

def text? (files : Files) (path : Text) : Option Text :=
  match files.bytes path with
  | .ok content => (Text.Utf8.decode content).toOption
  | .error _ => none

/-- The text of a file with every line end as a line feed. -/
def read (files : Files) (path : Text) : Except Fault Text := do
  let content ← (files.bytes path).mapError (·.fault path)
  let text ← (Text.Utf8.decode content).mapError Fault.undecodable
  return Text.unifyNewlines text

/-! ## Writing -/

/-- Where a file with this path is written; it need not be there. -/
def target (files : Files) (path : Text) : Except Path.Error Location := do
  let (folder, name) ← files.parent path
  let place := folder ++ [name]
  if isRelative name || Path.endsInSlash path then throw .isFolder
  else if Path.nameLimit < Path.byteLength name then throw .tooLong
  else if files.isFolderAt place then throw .isFolder
  else return place

def putContent (contents : List (Location × List UInt8)) (place : Location)
    (content : List UInt8) : List (Location × List UInt8) :=
  match contents with
  | [] => [(place, content)]
  | (p, c) :: rest =>
    if p = place then (p, content) :: rest else (p, c) :: putContent rest place content

def put (files : Files) (place : Location) (content : List UInt8) : Files :=
  { files with contents := putContent files.contents place content }

def encoded (text : Text) : Except Fault (List UInt8) :=
  (Text.Utf8.encode text).mapError Fault.unencodable

/-- The bytes of pieces of text, up to the first that has none. -/
def encodedPieces : List (Except Fault Text) → List UInt8 × Except Fault Unit
  | [] => ([], .ok ())
  | piece :: rest =>
    match piece >>= encoded with
    | .error fault => ([], .error fault)
    | .ok bytes =>
      let (more, outcome) := encodedPieces rest
      (bytes ++ more, outcome)

def write (files : Files) (path text : Text) : Except Fault Files := do
  let place ← (files.target path).mapError (·.fault path)
  let content ← encoded text
  return files.put place content

/-- The files with pieces of text written to a path. The first piece that cannot be written is the
end: those before it stay. -/
def writePieces (files : Files) (path : Text) (pieces : List (Except Fault Text)) :
    Files × Except Fault Unit :=
  match files.target path with
  | .error e => (files, .error (e.fault path))
  | .ok place =>
    let (content, outcome) := encodedPieces pieces
    (files.put place content, outcome)

/-- The files with a text added to the end of a file, which is made if it is not there. -/
def append (files : Files) (path text : Text) : Except Fault Files := do
  let place ← (files.target path).mapError (·.fault path)
  let content ← encoded text
  return files.put place ((files.contents.lookup place).getD [] ++ content)

/-- A file opened to be written, and how many of its bytes lie before the next ones. -/
structure Handle where
  place : Location
  offset : Nat

def create (files : Files) (path : Text) : Except Fault (Handle × Files) := do
  let place ← (files.target path).mapError (·.fault path)
  return (⟨place, 0⟩, files.put place [])

/-- The files with a text written at a handle, over what stands there, and the handle behind it. -/
def writeAt (files : Files) (h : Handle) (text : Text) : Except Fault (Handle × Files) := do
  let new ← encoded text
  let old := (files.contents.lookup h.place).getD []
  let next := h.offset + new.length
  return (⟨h.place, next⟩, files.put h.place (old.take h.offset ++ new ++ old.drop next))

/-! ## Making folders -/

def makeFolder (files : Files) (path : Text) : Except Path.Error Files := do
  let (folder, name) ← files.parent path
  let place := folder ++ [name]
  if isRelative name then throw .taken
  else if Path.nameLimit < Path.byteLength name then throw .tooLong
  else if files.isAt place then throw .taken
  -- The folder above holds something from now on and need not be listed.
  else return { files with folders := files.folders.filter (· ≠ folder) ++ [place] }

/-- The files with a folder, which is made unless it is there. -/
def ensureFolder (files : Files) (path : Text) : Files × Except Fault Unit :=
  match files.makeFolder path with
  | .ok files => (files, .ok ())
  | .error e =>
    (files, if files.isFolder path && !e.isTextual then .ok () else .error (e.fault path))

/-- The files with a folder and those above it, which are made where they are not there; `fuel`
bounds how many are above it. A file that stands in the place of one above it is no failure yet, and
what was made before a failure stays. -/
def ensureFolders (files : Files) : Nat → Text → Files × Except Fault Unit
  | 0, path => files.ensureFolder path
  | fuel + 1, path =>
    let (head, tail) := match Path.split path with
      | (head, []) => Path.split head
      | parts => parts
    if head.isEmpty || tail.isEmpty || files.exist head then files.ensureFolder path
    else match ensureFolders files fuel head with
      | (files, .ok ()) | (files, .error (.fileExists _)) =>
        -- A path that ends in a dot names the folder that was just made.
        if tail = "." then (files, .ok ()) else files.ensureFolder path
      | failed => failed

/-- The files with a folder and those above it made, where they are not there. -/
def makeFolders (files : Files) (path : Text) : Except Fault Files := do
  let (files, outcome) := files.ensureFolders path.length path
  outcome
  return files

/-! ## Files below the working directory -/

def add (files : Files) (path text : Text) : Files :=
  files.put (Path.location files.base path) (Text.Utf8.bytes text)

def below (files : Files) : List Location :=
  files.contents.filterMap fun f =>
    if files.base.isPrefixOf f.1 then some (f.1.drop files.base.length) else none

end Files

end QueryBench
