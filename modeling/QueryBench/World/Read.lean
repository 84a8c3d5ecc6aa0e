import QueryBench.Json.Reader
import QueryBench.Schema.Financial
import QueryBench.World

/-!
# Worlds as documents

A world is described by a record: `db` holds the replies of the database by query, `vector` the
collections of the store, `router` and `llm` the replies of the services in order, `clock` the
readings of the clock, `db_info` the schemas. What is left out has a default.

Main definition: `World.ofDoc`.
-/
set_option autoImplicit false

namespace QueryBench.World

/-- The value under a key, null if there is none. -/
def part (d : Doc) (key : Text) : Doc :=
  match d with
  | .record fields => (Doc.find? fields key).getD .null
  | _ => .null

def itemsOf : Doc → List Doc
  | .list items => items
  | _ => []

def fieldsOf : Doc → List (Text × Doc)
  | .record fields => fields
  | _ => []

def textOf : Doc → Text
  | .text s => s
  | _ => ""

/-- The message of a failure, if the document describes one. -/
def failure? (d : Doc) : Option Text :=
  match part d "error" with
  | .text message => some message
  | _ => none

/-! ## The vector store -/

/-- An entry: what is stored beside it and its distance. -/
def hitOf (d : Doc) : Vector.Hit :=
  ⟨((itemsOf d)[0]?).getD .null, ((itemsOf d)[1]?).getD .null⟩

def collectionOf (d : Doc) : Vector.Collection :=
  match failure? d with
  | some message => .failing message
  | none => .answering ((fieldsOf d).map fun q => (q.1, (itemsOf q.2).map hitOf))

def storeOf (d : Doc) : Vector.Store :=
  ⟨(fieldsOf d).map fun c => (c.1, collectionOf c.2)⟩

/-! ## The database -/

def bytesOf : Text → List UInt8
  | a :: b :: rest =>
    ((Json.hexValue? a).getD 0 * 16 + (Json.hexValue? b).getD 0).toUInt8 :: bytesOf rest
  | _ => []

/-- A cell; a byte string is a record with its digits under `blob`. -/
def cellOf : Doc → Cell
  | .int n => .int n
  | .real x => .real x
  | .text s => .text s
  | .record fields => .blob (bytesOf (textOf (part (.record fields) "blob")))
  | _ => .null

def replyOf (d : Doc) : Reply :=
  match failure? d with
  | some message => .failure message
  | none => .table ⟨(itemsOf (part d "columns")).map textOf,
      (itemsOf (part d "rows")).map fun row => (itemsOf row).map cellOf⟩

def databaseOf (d : Doc) : Database where
  connectError := match part d "connect_error" with
    | .text message => some message
    | _ => none
  replies := (fieldsOf (part d "db")).map fun r => (r.1, replyOf r.2)

/-! ## The services -/

def routerReplyOf (d : Doc) : RouterReply :=
  match failure? d with
  | some message => .failure message
  | none => .answer (part d "id") (part d "score")

def modelReplyOf (d : Doc) : ModelReply :=
  match failure? d with
  | some message => .failure message
  | none => .answer (part d "content") (part d "tokens")

def readingOf : Doc → Float
  | .real x => x
  | _ => 0.0

/-- The reply to call number `n`, where the last reply repeats. -/
def replyAt {α : Type} [Inhabited α] (replies : List α) (n : Nat) : α :=
  (replies[n]?).getD (replies.getLast?.getD default)

/-- The services of a world: what they reply depends on the number of the call alone. Without replies
the router takes every text for a query, the model gives an empty plan, and the clock stands
still. -/
def servicesOf (d : Doc) : Services where
  router n _ := replyAt (match part d "router" with
    | .list replies => replies.map routerReplyOf
    | _ => [.answer (.int 1) (.real 0.5)]) n
  model n _ := replyAt (match part d "llm" with
    | .list replies => replies.map modelReplyOf
    | _ => [.answer (.text "\x7b\x7d") (.int 0)]) n
  clock n := replyAt (match part d "clock" with
    | .list readings => readings.map readingOf
    | _ => [0.0]) n

/-! ## The world -/

/-- The schemas of a world: those given, or else the known ones, unless there are none. -/
def schemasOf (d : Doc) : Option Doc :=
  if !(part d "no_info").isVoid then none
  else some ((Doc.find? (fieldsOf d) "db_info").getD Schema.known)

/-- The world a document describes, for a program that runs in a folder with the variables of its
environment. -/
def ofDoc (program folder : Text) (environment : Text → Option Text) (d : Doc) : World where
  services := servicesOf d
  environment := environment
  order := .given
  store := storeOf (part d "vector")
  database := databaseOf d
  schemas := schemasOf d
  folder := folder
  program := program

end QueryBench.World
