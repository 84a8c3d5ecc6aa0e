import QueryBench.Console
import QueryBench.Doc.Access
import QueryBench.Vector.Store

/-!
# A look into a collection

Main definition: `Demo.viewCollection`.
-/
set_option autoImplicit false

namespace QueryBench.Demo

/-- The ids, documents and stored information of a collection. -/
structure Contents where
  ids : List Doc
  documents : List Doc
  information : List Doc

def viewedCollection : Text :=
  "district_A2"

def viewLimit : Nat := 50

def sayItem (contents : Contents) (i : Nat) (id : Doc) : Traced Unit := do
  say ("ID: " ++ id.display)
  let document ← (Doc.list (contents.documents.take viewLimit)).nth i
  say ("Document (What is embedded): " ++ document.display)
  let information ← (Doc.list (contents.information.take viewLimit)).nth i
  say ("Metadata (Original DB Data): " ++ information.display)
  say (Text.replicate 30 '-')

def sayItems (contents : Contents) (i : Nat) : List Doc → Traced Unit
  | [] => return ()
  | id :: rest => do
    sayItem contents i id
    sayItems contents (i + 1) rest

/-- Writes the first items of a collection, if the store has it. -/
def viewCollection (store : Vector.Store) (contents : Contents) : Traced Unit := do
  if (store.collections.lookup viewedCollection).isNone then
    say ("Collection '" ++ viewedCollection ++ "' does not exist.")
  else
    say ("Total items in '" ++ viewedCollection ++ "': " ++ toString contents.ids.length)
    say "\n--- First 50 Items ---"
    sayItems contents 0 (contents.ids.take viewLimit)

end QueryBench.Demo
