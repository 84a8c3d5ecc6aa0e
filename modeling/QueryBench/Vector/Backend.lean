import QueryBench.Doc.Access

/-!
# Backends of vector stores

The collections of a store are kept by a backend, which can be asked to delete one, to make one and
to add items to one. It may refuse.

Main definitions: `Vector.Entry`, `Vector.Batch`, `Vector.Item`, `Vector.StoreCall`,
`Vector.Backend`, and `Vector.Contents.backend`, which keeps the collections as plain lists.
-/
set_option autoImplicit false

namespace QueryBench.Vector

/-- A value with the description by which it is found. -/
structure Entry where
  value : Text
  description : Doc

/-- What a collection is given at once: documents to find items by, what is stored beside each of
them, and their ids. -/
structure Batch where
  documents : List Doc
  metadatas : List Doc
  ids : List Text

def Batch.push (batch : Batch) (e : Entry) : Batch where
  documents := batch.documents ++ [e.description]
  metadatas := batch.metadatas ++
    [.record [("db_value", .text e.value), ("original", e.description)]]
  ids := batch.ids ++ [e.value]

def Batch.ofEntries (entries : List Entry) : Batch :=
  entries.foldl Batch.push ⟨[], [], []⟩

/-- What a collection holds under an id: the document to find it by, and what is stored beside. -/
structure Item where
  id : Text
  document : Doc
  metadata : Doc

def Batch.items (batch : Batch) : List Item :=
  (batch.ids.zip (batch.documents.zip batch.metadatas)).map fun p => ⟨p.1, p.2.1, p.2.2⟩

/-- What is asked of a store. -/
inductive StoreCall where
  | delete (name : Text)
  | create (name : Text)
  | add (name : Text) (batch : Batch)

/-- Collections in the order in which they are listed, each with its items. -/
abbrev Contents := List (Text × List Item)

/-- A backend with states in `σ`: how it answers a call, the names of its collections as it lists
them, and the items of each. How it keeps them is its own affair, and a call may be refused. -/
structure Backend (σ : Type) where
  answer : StoreCall → σ → Except Fault Unit × σ
  names : σ → List Text
  items : σ → Text → List Item

namespace Contents

/-- Is there a collection of this name? -/
def hasName (contents : Contents) (name : Text) : Bool :=
  contents.any (·.1 = name)

/-- The collections with further items in those of a name. -/
def extend (contents : Contents) (name : Text) (items : List Item) : Contents :=
  contents.map fun c => if c.1 = name then (c.1, c.2 ++ items) else c

/-- The collections after a call. What cannot be done is refused, and so is a name for which
`refusal` gives a reason. -/
def perform (refusal : Text → Option Text) (contents : Contents) : StoreCall → Except Fault Contents
  | .delete name =>
    if contents.hasName name then .ok (contents.filter (·.1 ≠ name))
    else .error (.noCollection name)
  | .create name =>
    if contents.hasName name then .error (.service ("Collection [" ++ name ++ "] already exists"))
    else match refusal name with
      | some reason => .error (.service reason)
      | none => .ok (contents ++ [(name, [])])
  | .add name batch =>
    if contents.hasName name then .ok (contents.extend name batch.items)
    else .error (.noCollection name)

/-- The backend that keeps plain lists. -/
def backend (refusal : Text → Option Text) : Backend Contents where
  answer call contents :=
    match contents.perform refusal call with
    | .ok contents => (.ok (), contents)
    | .error fault => (.error fault, contents)
  names contents := contents.map Prod.fst
  items contents name := (contents.lookup name).getD []

end Contents

end QueryBench.Vector
