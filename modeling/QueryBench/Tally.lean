import QueryBench.Doc.Arithmetic
import QueryBench.Evaluation

/-!
# Counting results

Main definitions: `Tally.start`, `Tally.record`, `Tally.count`.
-/
set_option autoImplicit false

namespace QueryBench.Tally

/-- A computation that changes counters and may stop at a fault; what was counted before it stays
counted. -/
abbrev Counting := ExceptT Fault (StateM Doc)

/-- The counters of a run before anything is counted. -/
def start : Doc :=
  .record [("total", .int 0), ("success", .int 0), ("exact_match", .int 0),
    ("strict_match", .int 0), ("soft_match", .int 0), ("super_soft_match", .int 0),
    ("wrong", .int 0), ("errors", .int 0), ("router_filtered", .int 0), ("total_tokens", .int 0)]

/-- A record with a field set; anything else is kept. -/
def setField (d : Doc) (key : Text) (value : Doc) : Doc :=
  match d with
  | .record fields => .record (Doc.put fields key value)
  | d => d

def increase (key : Text) (amount : Doc) : Counting Unit := do
  let tally ← get
  let old ← tally.field key
  let new ← old.add amount
  set (setField tally key new)

def bump (key : Text) : Counting Unit :=
  increase key (.int 1)

def recordMatch (name : Doc) : Counting Unit := do
  if name.isText Match.exact.label then
    bump "exact_match"
    bump "success"
  else if name.isText Match.strict.label then
    bump "strict_match"
    bump "success"
  else if name.isText Match.soft.label then
    bump "soft_match"
    bump "success"
  else if name.isText Match.superSoft.label then
    bump "super_soft_match"
    bump "success"
  else bump "wrong"

def hasCheck (result : Doc) : Except Fault Bool := do
  if ← result.has "steps" then (← result.field "steps").has "evaluator" else return false

/-- Counts a result that was completed: its match and its tokens. -/
def recordCompleted (result : Doc) : Counting Unit := do
  if ← hasCheck result then
    let check ← (← result.field "steps").field "evaluator"
    let name ← check.member "match_type"
    let tokens ← (← result.field "metrics").member "total_tokens"
    -- The tokens come first: if they cannot be added, the match is not counted.
    increase "total_tokens" tokens
    recordMatch name
  else bump "errors"

def record (result : Doc) : Counting Unit := do
  bump "total"
  let status ← result.member "status"
  if status.isText "filtered_by_router" then bump "router_filtered"
  else if status.isText "completed" then recordCompleted result
  else bump "errors"

def count (tally result : Doc) : Except Fault Doc :=
  match (record result).run.run tally with
  | (.ok _, tally) => .ok tally
  | (.error fault, _) => .error fault

end QueryBench.Tally
