import QueryBench.Evaluation
import QueryBench.Proofs.Console

/-!
# Evaluations as plain functions

`executed` and `evaluated` give the outcomes of running a query and of evaluating a question, and
`yields_execute` and `yields_evaluate` say that they are those of `execute` and `evaluate`.
-/
set_option autoImplicit false

namespace QueryBench

/-- The outcome of running a query on a database. -/
def executed (db : Database) (sql : Doc) : Execution :=
  match db.connectError with
  | some message => .failed message
  | none => match db.query sql with
    | .ok table => .answered table.normalized table.columnNames
    | .error _ => .failed "Query returned None"

theorem yields_execute (db : Database) (sql : Doc) :
    Yields (execute db sql) (.ok (executed db sql)) := by
  cases hc : db.connectError with
  | some message =>
    have hconnect : Yields db.connect (.error (.cannotConnect message)) := by
      simp only [Database.connect, hc]
      exact (Yields.say _).bind_ok (.throw _)
    have hfailed : Yields (pure (.failed message) : Traced Execution) (.ok (executed db sql)) := by
      simp only [executed, hc]
      exact .pure _
    exact Yields.tryCatch_error hconnect.bind_error hfailed
  | none =>
    have hconnect : Yields db.connect (.ok ()) := by
      simp only [Database.connect, hc]
      exact .pure ()
    cases hq : db.query sql with
    | ok table =>
      have hselect : Yields (db.select? sql) (.ok (some table)) := by
        simp only [Database.select?, hq]
        exact .pure _
      simp only [executed, hc, hq]
      exact Yields.tryCatch_ok (hconnect.bind_ok (hselect.bind_ok (.pure _)))
    | error fault =>
      have hselect : Yields (db.select? sql) (.ok none) := by
        simp only [Database.select?, hq]
        exact (Yields.say _).bind_ok (.pure _)
      simp only [executed, hc, hq]
      exact Yields.tryCatch_ok (hconnect.bind_ok (hselect.bind_ok (.pure _)))

theorem Match.label_inj {a b : Match} (h : a.label = b.label) : a = b := by
  revert h
  cases a <;> cases b <;> decide

/-- The evaluation of two outcomes that are compared. -/
def gradedBy (question : Question) (gold predicted : Execution) : Except Fault Evaluation := do
  let (quality, reason) ← grade gold predicted
  return { question, sqlError := false, quality, reason, gold, predicted }

/-- The evaluation of a question from the outcomes of its two queries. -/
def evaluated (db : Database) (question : Question) : Except Fault Evaluation :=
  let gold := executed db question.gold
  let predicted := executed db question.predicted
  match predicted.error? with
  | some error =>
    if error.isEmpty then gradedBy question gold predicted
    else
      .ok { question, sqlError := true, quality := .none,
            reason := some ("SQL Execution Failed: " ++ error), gold, predicted }
  | none => gradedBy question gold predicted

theorem yields_evaluate (db : Database) (question : Question) :
    Yields (evaluate db question) (evaluated db question) := by
  have hgraded (gold predicted : Execution) :
      Yields (evaluate.graded question gold predicted) (gradedBy question gold predicted) :=
    (Yields.lift (grade gold predicted)).bind fun _ _ => .pure _
  refine (yields_execute db question.gold).bind_ok ((yields_execute db question.predicted).bind_ok ?_)
  simp only [evaluated]
  cases (executed db question.predicted).error? with
  | none => exact hgraded _ _
  | some error =>
    by_cases h : error.isEmpty = true
    · simp only [h, if_true]
      exact hgraded _ _
    · simp only [h]
      exact .pure _

end QueryBench
