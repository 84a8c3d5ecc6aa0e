import QueryBench.Session
import QueryBench.Doc.Access

/-!
# Routing

Main definitions: `Intent`, `Intent.ofId`, `predictIntent`.
-/
set_option autoImplicit false

namespace QueryBench

/-- What a text is about. -/
inductive Intent where
  | chat
  | query
  deriving DecidableEq, Repr

def Intent.label : Intent → Text
  | chat => "GENERAL CHAT"
  | query => "DATABASE QUERY"

/-- The intent of a label number: 0 is chat and 1 is a query. -/
def Intent.ofId (id : Doc) : Except Fault Intent := do
  id.checkKey
  if id.same (.int 0) then return .chat
  else if id.same (.int 1) then return .query
  else throw (.missingKey id)

def predictIntent (services : Services) (text : Doc) : Acting (Intent × Doc) := do
  let (id, score) ← askRouter services text
  let intent ← Intent.ofId id
  return (intent, score)

end QueryBench
