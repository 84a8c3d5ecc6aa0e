import QueryBench.Database.Basic
import QueryBench.Doc.Access
import QueryBench.Vector.Backend
import QueryBench.Vector.Search

/-!
# Building the collections of a vector store

Every text column of a database gets a collection. Its entries come from the meanings given to the
values of the column, or else from the values that occur in it.

Main definitions: `Vector.Building`, `Vector.build`, `Vector.listCollections`.
-/
set_option autoImplicit false

namespace QueryBench.Vector

/-- A store being built: what was written, the calls that were carried out, and the state of the
store. -/
structure BuildState (σ : Type) where
  console : Text
  calls : List StoreCall
  store : σ

/-- A computation that builds a store and may stop at a fault. -/
abbrev Building (σ : Type) := ExceptT Fault (StateM (BuildState σ))

def Building.ofTraced {σ α : Type} (act : Traced α) : Building σ α :=
  ExceptT.mk fun s =>
    let (outcome, console) := act.run.run s.console
    (outcome, { s with console })

variable {σ : Type}

def note (line : Text) : Building σ Unit :=
  Building.ofTraced (say line)

def call (backend : Backend σ) (c : StoreCall) : Building σ Unit :=
  ExceptT.mk fun s =>
    match backend.answer c s.store with
    | (.ok (), store) => (.ok (), { s with calls := s.calls ++ [c], store })
    | (.error fault, store) => (.error fault, { s with store })

/-- Makes a collection, after deleting one of that name. -/
def recreate (backend : Backend σ) (name : Text) : Building σ Unit := do
  -- Whatever the reason for which nothing can be deleted, it is passed over.
  tryCatch
    (do
      call backend (.delete name)
      note ("   -> Deleted existing collection '" ++ name ++ "'"))
    fun _ => return ()
  call backend (.create name)

def splitName (name : Doc) : Except Fault (Text × Text) := do
  let s ← name.textFor "split"
  match Text.splitOn "." s with
  | [table, column] => return (table, column)
  | parts =>
    throw (if parts.length < 2 then .tooFewItems 2 parts.length else .tooManyItems 2)

/-- The meanings given to a column, by its full name or else by its own. -/
def meaningsOf (mappings : Doc) (name column : Text) : Except Fault Doc := do
  let full ← mappings.member name
  if full.isVoid then mappings.member column else return full

def valuesQuery (table column : Text) : Text :=
  "SELECT DISTINCT \"" ++ column ++ "\" FROM \"" ++ table ++ "\" WHERE \"" ++ column ++
    "\" IS NOT NULL"

def cellText : Cell → Except Fault Text
  | .blob bytes => (Text.Utf8.decode bytes).mapError Fault.undecodable
  | c => .ok c.display

/-- The texts of a column of an answer, of which there must be one only. -/
def columnTexts (answer : Table) (column : Text) : Except Fault (List Text) := do
  let places := (List.range answer.columns.length).filter (answer.columns[·]? = some column)
  let texts ← places.mapM fun i => (answer.settle.columnCells i).mapM cellText
  match texts with
  | [column] => return column
  | [] => throw (.missingKey (.text column))
  | _ => throw (.noAttribute .table "tolist")

/-- The entries for the values that occur in a column; blank ones are left out. -/
def occurring (db : Database) (table column : Text) : Building σ (List Entry) := do
  note "   -> Using RAW DB VALUES (Distinct lookup)"
  let query := valuesQuery table column
  note ("     Executing Query: " ++ query)
  let answer ← db.query (.text query)
  let texts ← columnTexts answer column
  return (texts.filter (!Text.isBlankText ·)).map fun t => ⟨t, .text t⟩

def entriesOf (db : Database) (meanings : Doc) (table column : Text) :
    Building σ (List Entry) := do
  match meanings with
  | .record (f :: fields) =>
    note "   -> Using MAPPINGS (Semantic Translation)"
    return (f :: fields).map fun m => ⟨m.1, m.2⟩
  | _ => occurring db table column

def store (backend : Backend σ) (name : Text) (entries : List Entry) : Building σ Unit := do
  if entries.isEmpty then note "   -> No data found!"
  else
    call backend (.add name (Batch.ofEntries entries))
    note ("   -> Stored " ++ toString entries.length ++ " items in collection '" ++ name ++ "'")

def buildColumn (backend : Backend σ) (db : Database) (mappings name : Doc) : Building σ Unit := do
  let (table, column) ← splitName name
  note ("\nProcessing: " ++ name.display)
  let collection := table ++ "_" ++ column
  recreate backend collection
  -- A fault from here on leaves the collection empty.
  let meanings ← meaningsOf mappings name.display column
  note ("   -> Found Mapping: " ++ (Doc.bool (!meanings.isVoid)).display)
  note ("mapping_data: " ++ meanings.display)
  let entries ← entriesOf db meanings table column
  store backend collection entries

def build (backend : Backend σ) (db : Database) (description : Doc) : Building σ Unit := do
  let columns ← description.memberD "text_columns" (.list [])
  note ("Semantic Columns to process: " ++ columns.display)
  let mappings ← description.memberD "value_mappings" (.record [])
  match db.connectError with
  | some message => throw (.cannotConnect message)
  | none => pure ()
  let count ← columns.size
  note ("--- Starting Vectorization for " ++ toString count ++ " columns ---")
  (← columns.elements).forM (buildColumn backend db mappings)
  note "\n Vector Database Built Successfully in ./chroma_db"

def listCollections (backend : Backend σ) : Building σ Unit := do
  let s ← get
  note "--- Existing Collections ---"
  (backend.names s.store).forM fun name => note (" - " ++ name)

/-- Builds the collections for the known database, whose file must be there, and lists them. -/
def buildFinancial (backend : Backend σ) (db : Database) (base : Text) (hasDatabase : Bool)
    (descriptions : Option Doc) : Building σ Unit := do
  if !hasDatabase then
    note ("ERROR: DB file could not find in:\n" ++ base ++
      "/data/dev_20240627/dev_databases/financial/financial.sqlite")
    note ("please try 'find . -name financial.sqlite' in terminal and paste here in the code.")
    throw (.exit "1")
  match descriptions with
  | none => throw (.noFile (base ++ "/info/database_info_mappings.json"))
  | some d =>
    build backend db (← d.field "financial")
    listCollections backend

end QueryBench.Vector
