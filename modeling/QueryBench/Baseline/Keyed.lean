import QueryBench.Baseline.Basic
import QueryBench.Number.Fixed

/-!
# Predictions by question id

Main definitions: `Baseline.Keyed.clean`, `Baseline.Keyed.expected`, `Baseline.Keyed.run`.
-/
set_option autoImplicit false

namespace QueryBench.Baseline.Keyed

/-- The query of a prediction, on one line and without semicolons at its end; what is no text has
none. -/
def clean : Doc → Text
  | .text s =>
    let query := Text.trim (Text.replaceChar '\n' [' '] (Text.before mark s))
    Text.dropEndWhile (· = ';') query
  | _ => ""

def expected (files : Files) (data moreData : CommandLine.Value) : Traced Dataset := do
  let data ← CommandLine.pathOf .lookUp data
  if !files.exist data then
    say ("Warning: " ++ data ++ " not found.")
    return Dataset.empty
  let first ← readDataset files data
  let moreData ← CommandLine.pathOf .lookUp moreData
  let all ← if files.exist moreData then first.append <$> readDataset files moreData else pure first
  let chosen ← financialRows all
  let ids := match chosen.column? "question_id" with
    | some column => column.cells.map Doc.display
    | none => (List.range chosen.size).map fun (i : Nat) => toString i
  return chosen.setTexts "question_id" ids

/-- Counts an evaluation: by its status if the query could not be run, and else by its match. -/
def count (score : Score) (e : Evaluation) : Score :=
  let label := e.quality.label
  if e.status = "SQL_ERROR" then score.countError
  else if Match.successes.contains label then
    let score := score.countSuccess
    if label = Match.exact.label then score.countExact
    else if label = Match.strict.label then score.countStrict
    else if label = Match.soft.label then score.countSoft
    else if label = Match.superSoft.label then score.countSuperSoft
    else score
  else score.countWrong

def judge (db : Database) (predictions : Doc) (score : Score) (row : Row) :
    Traced (Score × Doc) := do
  let id := ((row.cell? "question_id").getD (.text "")).display
  let wording := (row.cell? "question").getD (.text "")
  let gold ← cell row "SQL"
  match ← predictions.member id with
  | .null =>
    return (score.countAsked.countMissing,
      .record [("question_id", .text id), ("status", .text "missing_prediction")])
  | raw =>
    let e ← evaluate db ⟨.text id, wording, gold, .text (clean raw), .record []⟩
    return (count score.countAsked e, e.toDoc)

/-- Counts the predictions of all rows; gives their places in the report. -/
def judgeAll (db : Database) (predictions : Doc) (score : Score) :
    List Row → Traced (Score × List Doc)
  | [] => return (score, [])
  | row :: rest => do
    let (score, entry) ← judge db predictions score row
    let (score, entries) ← judgeAll db predictions score rest
    return (score, entry :: entries)

def summary (score : Score) (output : Text) : List Text :=
  ["\n" ++ rule, "EVALUATION COMPLETE", rule,
    "Total Queries: " ++ toString score.total,
    "Success:       " ++ toString score.success ++ " (" ++
      Number.fixedText 2 score.accuracy ++ "%)",
    "  - Exact:     " ++ toString score.exact,
    "  - Strict:    " ++ toString score.strict,
    "  - Soft:      " ++ toString score.soft,
    "  - Super Soft:" ++ toString score.superSoft,
    "Errors:        " ++ toString score.errors,
    "Missing Preds: " ++ toString score.missing,
    rule, "Detailed report saved to: " ++ output]

def report (world : World) (settings : Settings) (questions : Dataset) : Working Unit := do
  (say ("Loading predictions from " ++ CommandLine.shown settings.predictions ++ "...")).work
  let files ← currentFiles
  let text ← files.read (← CommandLine.pathOf .other settings.predictions)
  let predictions ← Json.read text
  let _ ← locateDatabase world settings.database
  (say "Starting evaluation...").work
  let (score, details) ← (judgeAll world.database predictions {} questions.rows).work
  let output ← CommandLine.pathOf .other settings.output
  let folder := Path.folder output
  if !folder.isEmpty then changeFiles (·.makeFolders folder)
  let accuracy : List (Text × Doc) := [("accuracy", .real score.accuracy)]
  let fields := score.fields "missing" ++ accuracy
  writePieces output (Json.pieces ⟨some 4, false⟩ (reportDoc fields details))
  (summary score output).forM fun line => (say line).work

def run (world : World) (settings : Settings) : Working Unit := do
  (say "Loading ground truth data...").work
  let files ← currentFiles
  let questions ← (expected files settings.data settings.moreData).work
  if questions.isEmpty then (say "Error: No ground truth data found!").work
  else report world settings questions

end QueryBench.Baseline.Keyed
