import QueryBench.Console
import QueryBench.Database.Table
import QueryBench.Files

/-!
# Databases

A database is known by its answers to queries. It is read through a connection, which may be
refused.

Main definitions: `Database`, `Database.query`, `Database.connect`, `Database.select?`,
`Database.locate`.
-/
set_option autoImplicit false

namespace QueryBench

/-- What a database says to a query. -/
inductive Reply where
  | table (answer : Table)
  | failure (message : Text)
  deriving Inhabited

/-- A database: whether connecting fails, and the replies by query, under `*` that to any other. -/
structure Database where
  connectError : Option Text
  replies : List (Text × Reply)
  deriving Inhabited

namespace Database

def reply (db : Database) (sql : Text) : Reply :=
  match db.replies.lookup sql with
  | some r => r
  | none => (db.replies.lookup ("*" : Text)).getD (.failure "unknown query")

def query (db : Database) (sql : Doc) : Except Fault Table :=
  match sql with
  | .text s => match db.reply s with
    | .table t => t.aligned
    | .failure message => .error (.queryFailed s message)
  | _ => .error .queryNotText

def connect (db : Database) : Traced Unit :=
  match db.connectError with
  | none => return ()
  | some message => do
    say ("Connection error: " ++ message)
    throw (.cannotConnect message)

/-- The answer to a query over an open connection; a failure is reported and gives nothing. -/
def select? (db : Database) (sql : Doc) : Traced (Option Table) :=
  match db.query sql with
  | .ok t => return some t
  | .error fault => do
    say ("Query error: " ++ fault.message)
    return none

/-! ## The database file -/

/-- The file to be found first among files of one name: one that lies in a directory above another
comes before it. -/
def foremost (first : List Text) (others : List (List Text)) : List Text :=
  others.foldl (fun best f => if f.dropLast.isPrefixOf best.dropLast then f else best) first

/-- The path of the database file in the working directory, which is called `folder`: the name
itself if that leads anywhere, or else the first file of that name anywhere below, which is
reported. -/
def locate (folder : Text) (files : Files) (name : Text) : Traced Text :=
  if files.exist (Path.join "." name) then return Path.join folder name
  else match files.below.filter (·.getLast? = some name) with
    | first :: others => do
      let path := Text.join "/" (folder :: foremost first others)
      say ("File: " ++ path)
      return path
    | [] => throw .noDatabase

end Database

end QueryBench
