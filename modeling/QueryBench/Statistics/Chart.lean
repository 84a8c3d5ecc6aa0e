import QueryBench.Doc.Access
import QueryBench.Doc.Format

/-!
# Annotations of charts

Main definitions: `Bar`, `Annotation`, `annotateCounts`, `annotateShares`.
-/
set_option autoImplicit false

namespace QueryBench.Statistics

/-- A bar of a chart. -/
structure Bar where
  left : Doc
  width : Doc
  height : Doc

/-- A text above a bar, which may be emphasised. -/
structure Annotation where
  text : Text
  center : Float
  height : Doc
  emphasised : Bool

def half (d : Doc) : Except Fault Float :=
  match d.asInt?, d with
  | some n, _ => return (← Doc.floatOfInt n) / 2.0
  | none, .real x => .ok (x / 2.0)
  | none, d => .error (.operands "/" d.kind .real)

def shift (d : Doc) (distance : Float) : Except Fault Float :=
  match d.asInt?, d with
  | some n, _ => return (← Doc.floatOfInt n) + distance
  | none, .real x => .ok (x + distance)
  | none, .text _ => .error (.appendText .real)
  | none, .list _ => .error (.appendList .real)
  | none, d => .error (.operands "+" d.kind .real)

def Bar.center (b : Bar) : Except Fault Float := do
  shift b.left (← half b.width)

def annotateCount (b : Bar) : Except Fault Annotation := do
  let n ← b.height.toInt
  return ⟨toString n, ← b.center, b.height, false⟩

/-- A bar with its height as a share in percent, if it is above zero. -/
def annotateShare (b : Bar) : Except Fault (Option Annotation) := do
  if ← b.height.greater (.int 0) then
    let share ← b.height.fixed 1
    return some ⟨"%" ++ share, ← b.center, b.height, true⟩
  else return none

def annotateCounts (bars : List Bar) : Except Fault (List Annotation) :=
  bars.mapM annotateCount

def annotateShares (bars : List Bar) : Except Fault (List Annotation) := do
  return (← bars.mapM annotateShare).filterMap id

end QueryBench.Statistics
