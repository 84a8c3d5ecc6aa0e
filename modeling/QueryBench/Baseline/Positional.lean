import QueryBench.Baseline.Basic

/-!
# Predictions by position

Main definitions: `Baseline.Positional.clean`, `Baseline.Positional.expected?`,
`Baseline.Positional.run`.
-/
set_option autoImplicit false

namespace QueryBench.Baseline.Positional

def fallback : Text :=
  "SELECT * FROM table"

/-- The part of a prediction before a separator, if it has the separator. -/
def cutAt (separator : Text) (d : Doc) : Except Fault Doc := do
  if ← d.has separator then
    let s ← d.textFor "split"
    return .text (Text.trim (Text.before separator s))
  else return d

/-- The query of a prediction, up to its first semicolon. -/
def clean (d : Doc) : Except Fault Text := do
  if d.isVoid then return fallback
  let d ← cutAt (mark ++ "\t") d
  let d ← cutAt ";" d
  return Text.trim (← d.textFor "strip")

/-- The questions with their expected queries, if both files are there. -/
def expected? (files : Files) (data moreData : CommandLine.Value) :
    Except Fault (Option Dataset) := do
  let data ← CommandLine.pathOf .lookUp data
  if !files.exist data then return none
  let moreData ← CommandLine.pathOf .lookUp moreData
  if !files.exist moreData then return none
  let first ← readDataset files data
  let more ← readDataset files moreData
  return some (← financialRows (first.append more))

/-- Counts an evaluation by its match alone; that the query could not be run is looked for there
too. -/
def count (score : Score) (e : Evaluation) : Score :=
  let label := e.quality.label
  if label = Match.exact.label then score.countExact.countSuccess
  else if label = Match.strict.label then score.countStrict.countSuccess
  else if label = Match.soft.label then score.countSoft.countSuccess
  else if label = Match.superSoft.label then score.countSuperSoft.countSuccess
  -- No match has this label: it is that of a status.
  else if label = "SQL_ERROR" then score.countError
  else score.countWrong

def judge (db : Database) (predictions : Doc) (score : Score) (position : Nat)
    (row : Row) : Traced (Score × Doc) := do
  let score := score.countAsked
  let id := (row.cell? "question_id").getD (.int position)
  let wording ← cell row "question"
  let gold ← cell row "SQL"
  let key := toString position
  if ← predictions.has key then
    let raw ← predictions.field key
    let query ← clean raw
    let e ← evaluate db ⟨id, wording, gold, .text query, .null⟩
    return (count score e, .record [
      ("index", .int position), ("question", wording), ("gt_sql", gold), ("pred_sql", .text query),
      ("raw_pred", raw), ("eval_result", e.toDoc)])
  else
    return (score.countMissing, .record [
      ("question_id", id), ("status", .text "MISSING_PREDICTION"), ("gt_sql", gold)])

/-- Counts the predictions of all rows from a position on; gives their places in the report. -/
def judgeAll (db : Database) (predictions : Doc) (score : Score) (position : Nat) :
    List Row → Traced (Score × List Doc)
  | [] => return (score, [])
  | row :: rest => do
    let (score, entry) ← judge db predictions score position row
    let (score, entries) ← judgeAll db predictions score (position + 1) rest
    return (score, entry :: entries)

def summary (score : Score) : List Text :=
  ["\n" ++ rule, "🧪 DIN-SQL BASELINE", rule,
    "Toplam: " ++ toString score.total,
    "Success:   " ++ toString score.success,
    "Wrong:     " ++ toString score.wrong,
    "Error:       " ++ toString score.errors,
    "Missing:      " ++ toString score.missing]

def report (world : World) (settings : Settings) (predictions : Doc)
    (questions : Option Dataset) : Working Unit := do
  (say ("Total question: " ++ toString ((questions.map Dataset.size).getD 0))).work
  let answered ← predictions.size
  (say ("Model answered: " ++ toString answered)).work
  let _ ← locateDatabase world settings.database
  let rows ← match questions with
    | some d => pure d.rows
    | none => throw (.noAttribute .list "iterrows")
  let (score, details) ← (judgeAll world.database predictions {} 0 rows).work
  let output ← CommandLine.pathOf .other settings.output
  changeFiles (·.makeFolders (Path.folder output))
  writePieces output
    (Json.pieces ⟨some 4, true⟩ (reportDoc (score.fields "missing_prediction") details))
  (summary score).forM fun line => (say line).work

def run (world : World) (settings : Settings) : Working Unit := do
  let files ← currentFiles
  let path ← CommandLine.pathOf .lookUp settings.predictions
  if files.exist path then
    let text ← files.read path
    let predictions ← Json.read text
    let questions ← expected? files settings.data settings.moreData
    report world settings predictions questions
  else (say ("Prediction file can not be found: " ++ path)).work

end QueryBench.Baseline.Positional
