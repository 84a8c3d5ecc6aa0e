import QueryBench.Fault
import QueryBench.Text.Blank
import QueryBench.Text.Search

/-!
# Paths

A path is a text whose names are divided by slashes. An empty name and `.` stay in place, `..` leads
to the folder above, and a path that begins with a slash starts at the top.

Main definitions: `Path.names`, `Path.split`, `Path.folder`, `Path.join`, `Path.location`,
`Path.Error`.
-/
set_option autoImplicit false

namespace QueryBench.Path

/-- The names of a path, as they are read off its bytes. -/
def names (path : Text) : List Text :=
  Text.splitOn "/" (Text.Utf8.nameText (Text.Utf8.nameBytes path))

def byteLength (path : Text) : Nat :=
  (Text.Utf8.nameBytes path).length

def isAbsolute (path : Text) : Bool :=
  Text.startsWith "/" path

def endsInSlash (path : Text) : Bool :=
  path.getLast? = some (.char '/')

def withoutSlashes (path : Text) : Text :=
  Text.dropEndWhile (· = '/') path

/-- The part of a path before its last slash, without the slashes at its end, and the part behind
it. A part of slashes alone is kept. -/
def split (path : Text) : Text × Text :=
  let tail := (path.reverse.takeWhile (· ≠ .char '/')).reverse
  let head := Text.dropEndWhile (· ≠ '/') path
  let cut := withoutSlashes head
  (if cut.isEmpty then head else cut, tail)

def folder (path : Text) : Text :=
  (split path).1

def join (folder path : Text) : Text :=
  if isAbsolute path then path else folder ++ "/" ++ path

/-- The names that lead from the top to what a path denotes in a folder, if all its names but the
last are those of folders. -/
def location (base : List Text) (path : Text) : List Text :=
  (names path).foldl (fun (place : List Text) (name : Text) =>
    if name = "" || name = "." then place
    else if name = ".." then place.dropLast
    else place ++ [name]) (if isAbsolute path then [] else base)

/-- Why a path leads nowhere. -/
inductive Error where
  | missing
  /-- Something other than a folder stands before the end of the path. -/
  | notFolder
  | isFolder
  /-- Something stands where a folder is to be made. -/
  | taken
  | tooLong
  | null
  | unencodable (halves : Text.Utf8.Unpaired)
  deriving DecidableEq, Repr

/-- Is the error one of the path as a text, whatever files there are? -/
def Error.isTextual : Error → Bool
  | null | unencodable _ => true
  | _ => false

def Error.fault (path : Text) : Error → Fault
  | missing => .noFile path
  | notFolder => .notFolder path
  | isFolder => .isFolder path
  | taken => .fileExists path
  | tooLong => .nameTooLong path
  | null => .nullInPath
  | unencodable halves => .unencodable halves

def nameLimit : Nat := 255

def pathLimit : Nat := 4095

def check (path : Text) : Except Error Unit :=
  if let some halves := Text.Utf8.unpairedName? path then .error (.unencodable halves)
  else if .char '\x00' ∈ path then .error .null
  else if path.isEmpty then .error .missing
  else if pathLimit < byteLength path then .error .tooLong
  else .ok ()

end QueryBench.Path
