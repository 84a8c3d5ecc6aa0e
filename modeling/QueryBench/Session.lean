import QueryBench.Console

/-!
# Sessions

A session talks to a router, which tells questions from chat, and to a language model, and reads a
clock. It counts its calls, keeps the requests it sent and the text it wrote.

Main definitions: `Services`, `Session`, `Acting`.
-/
set_option autoImplicit false

namespace QueryBench

/-- What the router says about a text: a label number and a score. -/
inductive RouterReply where
  | answer (id score : Doc)
  | failure (message : Text)
  deriving Inhabited

/-- What the model says to a request: a text and the number of tokens used. -/
inductive ModelReply where
  | answer (content tokens : Doc)
  | failure (message : Text)
  deriving Inhabited

/-- A message of a request and the role of its sender. -/
structure Message where
  role : Text
  content : Doc

/-- A request to the model. -/
structure Request where
  model : Text
  messages : List Message
  jsonReply : Bool

/-- The services a session uses. The reply of the router depends on the number of the call and the
text in question, that of the model on the number of the call and the request. The clock gives the
time in seconds, by the number of the reading. -/
structure Services where
  router : Nat → Doc → RouterReply
  model : Nat → Request → ModelReply
  clock : Nat → Float
  deriving Inhabited

/-- What a session has done so far. -/
structure Session where
  console : Text
  routerCalls : Nat
  modelCalls : Nat
  clockReadings : Nat
  requests : List Request
  deriving Inhabited

def Session.start : Session where
  console := ""
  routerCalls := 0
  modelCalls := 0
  clockReadings := 0
  requests := []

/-- A computation inside a session that may stop at a fault. -/
abbrev Acting := ExceptT Fault (StateM Session)

def Traced.act {α : Type} (act : Traced α) : Acting α :=
  ExceptT.mk fun s =>
    let (outcome, console) := act.run.run s.console
    (outcome, { s with console })

def askRouter (services : Services) (text : Doc) : Acting (Doc × Doc) := do
  let s ← get
  set { s with routerCalls := s.routerCalls + 1 }
  match services.router s.routerCalls text with
  | .answer id score => return (id, score)
  | .failure message => throw (.service message)

def askModel (services : Services) (request : Request) : Acting (Doc × Doc) := do
  let s ← get
  set { s with modelCalls := s.modelCalls + 1, requests := s.requests ++ [request] }
  match services.model s.modelCalls request with
  | .answer content tokens => return (content, tokens)
  | .failure message => throw (.service message)

def readClock (services : Services) : StateM Session Float := do
  let s ← get
  set { s with clockReadings := s.clockReadings + 1 }
  return services.clock s.clockReadings

namespace Request

def toDoc (r : Request) : Doc :=
  let format : List (Text × Doc) :=
    if r.jsonReply then [("response_format", .record [("type", .text "json_object")])] else []
  .record (("model", .text r.model) ::
    ("messages", .list (r.messages.map fun m =>
      .record [("role", .text m.role), ("content", m.content)])) ::
    ("temperature", .int 0) :: format)

end Request

end QueryBench
