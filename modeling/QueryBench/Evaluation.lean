import QueryBench.Compare.Verdict
import QueryBench.Database.Basic

/-!
# Evaluating a predicted query

Both queries are run and their normalised answers compared, from the strictest comparison to the
most lenient one.

Main definitions: `Execution`, `execute`, `Evaluation`, `evaluate`.
-/
set_option autoImplicit false

namespace QueryBench

/-- The outcome of running a query. -/
inductive Execution where
  | answered (rows : List (List Text)) (columns : List Text)
  | failed (error : Text)
  deriving Inhabited

namespace Execution

def rowsDoc : Execution → Doc
  | answered rows _ => .list (rows.map fun row => .list (row.map Doc.text))
  | failed _ => .null

def rowCount : Execution → Nat
  | answered rows _ => rows.length
  | failed _ => 0

def columns : Execution → List Text
  | answered _ columns => columns
  | failed _ => []

def error? : Execution → Option Text
  | answered .. => none
  | failed error => some error

/-- Do two outcomes have the same rows? Two failures do. -/
def sameRows : Execution → Execution → Bool
  | answered a _, answered b _ => a == b
  | failed _, failed _ => true
  | _, _ => false

end Execution

def answerOf (db : Database) (sql : Doc) : Traced Execution := do
  db.connect
  match ← db.select? sql with
  | some table => return .answered table.normalized table.columnNames
  | none => return .failed "Query returned None"

/-- Runs a query and normalises its answer; a refused connection is a failure too. -/
def execute (db : Database) (sql : Doc) : Traced Execution :=
  tryCatch (answerOf db sql) fun fault => return .failed fault.message

/-- How well a predicted answer matches. -/
inductive Match where
  | none
  | exact
  | strict
  | soft
  | superSoft
  | wrong
  deriving DecidableEq, Repr

def Match.label : Match → Text
  | none => "NONE"
  | exact => "EXACT_MATCH"
  | strict => "STRICT_EXACT_MATCH"
  | soft => "SOFT_MATCH"
  | superSoft => "SUPER_SOFT_MATCH"
  | wrong => "WRONG"

def Match.successes : List Text :=
  [exact.label, strict.label, soft.label, superSoft.label]

/-- What is compared: a question with its two queries. -/
structure Question where
  id : Doc
  wording : Doc
  gold : Doc
  predicted : Doc
  tokens : Doc

/-- The result of an evaluation. -/
structure Evaluation where
  question : Question
  sqlError : Bool
  quality : Match
  reason : Option Text
  gold : Execution
  predicted : Execution

def evaluationTime : Text :=
  "2000-01-01T00:00:00"

namespace Evaluation

def status (e : Evaluation) : Text :=
  if e.sqlError then "SQL_ERROR" else "SUCCESS"

def reasonDoc (e : Evaluation) : Doc :=
  (e.reason.map Doc.text).getD .null

def toDoc (e : Evaluation) : Doc :=
  .record [
    ("timestamp", .text evaluationTime),
    ("query_id", e.question.id),
    ("nl_query", e.question.wording),
    ("sql_ground_truth", e.question.gold),
    ("sql_predicted", e.question.predicted),
    ("token_stats", if e.question.tokens.isVoid then .record [] else e.question.tokens),
    ("execution_status", .text e.status),
    ("match_type", .text e.quality.label),
    ("failure_reason", e.reasonDoc),
    ("result_summary", .record [
      ("gt_rows", .int e.gold.rowCount),
      ("pred_rows", .int e.predicted.rowCount),
      ("gt_cols", .int e.gold.columns.length),
      ("pred_cols", .int e.predicted.columns.length)])]

end Evaluation

def lenientReason (gold predicted : Execution) : Text :=
  let rows : List Text := if gold.rowCount < predicted.rowCount then ["Extra Rows"] else []
  let columns : List Text :=
    if gold.columns.length < predicted.columns.length then ["Extra Columns"] else []
  let details := rows ++ columns
  if details.isEmpty then "Column Order Differs"
  else "Logic Correct (Smart Map): " ++ Text.join ", " details

/-- The match of two outcomes, of which the second has no error, and its reason. -/
def grade (gold predicted : Execution) : Except Fault (Match × Option Text) := do
  if gold.sameRows predicted then return (.exact, none)
  let expected := gold.rowsDoc
  let got := predicted.rowsDoc
  -- The soft comparison only gives a reason; the match comes from the other two.
  let soft ← Compare.soft expected got
  let softReason := if soft.holds then some (lenientReason gold predicted) else none
  if ← Compare.strict expected got then return (.strict, softReason)
  let verdict ← Compare.superSoft expected got
  if verdict.holds then return (.superSoft, some (lenientReason gold predicted))
  else return (.wrong, some verdict.reason)

/-- Runs both queries of a question and compares their answers. -/
def evaluate (db : Database) (question : Question) : Traced Evaluation := do
  let gold ← execute db question.gold
  let predicted ← execute db question.predicted
  match predicted.error? with
  | some error =>
    if error.isEmpty then graded gold predicted
    else
      return { question, sqlError := true, quality := .none,
               reason := some ("SQL Execution Failed: " ++ error), gold, predicted }
  | none => graded gold predicted
where
  graded (gold predicted : Execution) : Traced Evaluation := do
    let (quality, reason) ← grade gold predicted
    return { question, sqlError := false, quality, reason, gold, predicted }

end QueryBench
