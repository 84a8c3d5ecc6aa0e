import QueryBench.Console
import QueryBench.Vector.Store
import QueryBench.Text.Case

/-!
# Searching by meaning

A term of a question is replaced by the stored value that is closest to it. Under an operator that
takes a list, further values with a high confidence are taken too.

Main definitions: `Vector.confidence`, `Vector.accepted`, `Vector.search`, `Vector.best`.
-/
set_option autoImplicit false

namespace QueryBench.Vector

def confidence (distance : Doc) : Except Fault Float :=
  match distance.asInt?, distance with
  | some n, _ =>
    -- Whole numbers are divided exactly and rounded once, however large they are.
    let total := 1 + n
    if total = 0 then .error .divisionByZero
    else .ok (Number.nearest (total < 0) 1 total.natAbs)
  | none, .real x =>
    let total := 1.0 + x
    if total == 0 then .error .floatDivisionByZero else .ok (1.0 / total)
  | none, d => .error (.operands "+" .int d.kind)

/-- A value found for a term, with its confidence. -/
structure Candidate where
  value : Doc
  confidence : Float

def Hit.candidate (hit : Hit) : Except Fault Candidate := do
  let c ← confidence hit.distance
  let v ← hit.info.field "db_value"
  return ⟨v, c⟩

def takesList (operator : Doc) : Bool :=
  operator.isOneOf ["IN", "NOT IN"]

/-- Further values are taken when their confidence is above this. -/
def confidenceFloor : Float := 0.7

/-- The values taken after the first one: those with a high confidence that are not there yet. -/
def acceptFurther (taken : List Doc) : List Candidate → List Doc
  | [] => taken
  | c :: rest =>
    if c.confidence > confidenceFloor && !taken.any (c.value.same ·) then
      acceptFurther (taken ++ [c.value]) rest
    else acceptFurther taken rest

def accepted (operator : Doc) : List Candidate → List Doc
  | [] => []
  | first :: rest => if takesList operator then acceptFurther [first.value] rest else [first.value]

/-- How a value is written in a query: a text between quotes. -/
def valueText : Doc → Text
  | .text s => "'" ++ s ++ "'"
  | d => d.display

def collectionName (table column : Doc) : Text :=
  table.display ++ "_" ++ column.display

/-- The values taken, written with commas between them, and the confidence of the first one. -/
def select (operator : Doc) (hits : List Hit) : Except Fault (Option Text × Float) := do
  let candidates ← hits.mapM Hit.candidate
  match candidates with
  | [] => return (none, 0.0)
  | first :: _ =>
    let values := (accepted operator candidates).map valueText
    return (some (Text.join ", " values), first.confidence)

def reportFailure {α : Type} (table column query : Doc) (outcome : Except Fault α) (nothing : α) :
    Traced α :=
  match outcome with
  | .ok a => return a
  | .error fault => do
    say ("Vector Search Error (" ++ collectionName table column ++ ") (" ++ query.display ++
      "): " ++ fault.message)
    return nothing

/-- The stored values for a term, ready for a query, and the confidence of the first one. -/
def search (store : Store) (table column query operator count : Doc) :
    Traced (Option Text × Float) :=
  reportFailure table column query
    (store.query (collectionName table column) query count >>= select operator) (none, 0.0)

def best (store : Store) (table column query count : Doc) :
    Traced (Doc × Float) :=
  reportFailure table column query
    (do
      match ← store.query (collectionName table column) query count with
      | [] => return (.null, 0.0)
      | first :: _ =>
        let c ← first.candidate
        return (c.value, c.confidence))
    (.null, 0.0)

/-- The stand-in for a search that knows four terms and gives back any other. -/
def fixedAnswer (term : Doc) : Text :=
  let t := Text.lower term.display
  if Text.contains "premium" t then "('Premium', 'VIP', 'Gold')"
  else if Text.contains "rich" t then "('Prague', 'Brno')"
  else if Text.contains "female" t then "'F'"
  else if Text.contains "issuance after" t then "'ISSUANCE_AFTER_TRANS'"
  else "'" ++ term.display ++ "'"

end QueryBench.Vector
