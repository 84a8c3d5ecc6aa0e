import QueryBench.CommandLine.Help
import QueryBench.Pipeline.Run
import QueryBench.Run.Workspace
import QueryBench.Tally

/-!
# Compiling and evaluating a report again

Every result of a report whose plan succeeded is compiled and evaluated anew. Results that fail go
to a file of their own as well.

Main definitions: `Reprocess.revise`, `Reprocess.run`.
-/
set_option autoImplicit false

namespace QueryBench.Reprocess

/-- What a run is asked to do. -/
structure Settings where
  input : CommandLine.Value
  output : CommandLine.Value
  errors : CommandLine.Value
  statistics : CommandLine.Value
  database : CommandLine.Value

def parameters : List CommandLine.Parameter :=
  [⟨"input_file", false⟩, ⟨"output_file", false⟩, ⟨"error_file", false⟩, ⟨"stats_file", false⟩,
    ⟨"db_path", false⟩]

def Settings.ofOptions (given : List (Text × CommandLine.Value)) : Settings where
  input := CommandLine.valueOf given "input_file" "results/pipeline_test_report_gpt.jsonl"
  output := CommandLine.valueOf given "output_file" "results/pipeline_test_report_gpt2.jsonl"
  errors := CommandLine.valueOf given "error_file" "results/pipeline_test_report_gpt_errors.jsonl"
  statistics := CommandLine.valueOf given "stats_file" "results/pipeline_test_report_summary_2.json"
  database := CommandLine.valueOf given "db_path" "financial.sqlite"

def Settings.paths (settings : Settings) : List Text :=
  [settings.input, settings.output, settings.errors, settings.statistics].flatMap Option.toList

/-- The first document unless it is void, or else the second. -/
def orElse (a b : Doc) : Doc :=
  if a.isVoid then b else a

/-- A result with what became of it. -/
structure Revision where
  result : Doc
  failed : Bool

def compileStep (order : SetOrder) (store : Vector.Store) (plan : Doc) : Traced SqlStep :=
  tryCatch
    (do
      let sql ← Pipeline.statement order store plan
      return if Text.startsWith "--" (Text.trim sql) then .comment sql (some sql) else .success sql)
    fun fault => do
      say fault.message
      return .error fault.message

def skippedCheck : List (Text × Doc) :=
  [("status", .text "skipped"), ("match_type", .text "NONE")]

def checkStep (db : Database) (question : Question) : Traced (Doc × Bool) :=
  tryCatch
    (do
      let e ← evaluate db question
      return (e.toDoc, true))
    fun fault =>
      return (.record (Doc.put (Doc.put skippedCheck "status" (.text "error"))
        "error" (.text fault.message)), false)

def redo (world : World) (result plan decomposer : Doc) (steps : List (Text × Doc)) :
    Traced Revision := do
  let fields ← result.fieldsFor "get"
  let id := (Doc.find? fields "question_id").getD (.text "0")
  let wording := orElse (← result.member "query") (← result.member "question")
  let gold := orElse (← result.member "ground_truth_sql") (← result.member "SQL")
  let sql ← compileStep world.order world.store plan
  let tokens ← decomposer.memberD "token_stats" (.record [])
  let (check, completed) ← match sql with
    | .success text =>
      if text.isEmpty then pure (Doc.record skippedCheck, false)
      else checkStep world.database ⟨.text id.display, wording, gold, .text text, tokens⟩
    | _ => pure (Doc.record skippedCheck, false)
  let status := if completed then "completed" else "error"
  let steps := Doc.put (Doc.put steps "compiler" sql.toDoc) "evaluator" check
  let fields := Doc.put (Doc.put fields "status" (.text status)) "steps" (.record steps)
  let quality ← check.member "match_type"
  return ⟨.record fields, !(completed && quality.isOneOf Match.successes)⟩

/-- The result made anew from its plan; one that was filtered or has no good plan is kept. -/
def revise (world : World) (result : Doc) : Traced Revision := do
  let status ← result.member "status"
  let steps ← result.memberD "steps" (.record [])
  if status.isText "filtered_by_router" then return ⟨result, false⟩
  let decomposer ← steps.memberD "decomposer" (.record [])
  let plan ← decomposer.member "json_plan"
  if plan.isVoid || !(← decomposer.member "status").isText "success" then return ⟨result, true⟩
  redo world result plan decomposer (← steps.fieldsFor "get")

def reportLine (result : Doc) : Text :=
  Json.write .line result ++ "\n"

/-- How far a run has come: its counters, the report and the report of what failed. -/
structure Progress where
  tally : Doc
  output : Files.Handle
  errors : Files.Handle

def writeTo (h : Files.Handle) (text : Text) : Working Files.Handle :=
  withFiles (·.writeAt h text)

/-- Revises a result, counts it and writes it; what goes too deep to be read is not written. -/
def handle (world : World) (progress : Progress) (result : Doc) : Working Progress := do
  let revision ← (revise world result).work
  let tally ← Tally.count progress.tally revision.result
  if Json.depthLimit < revision.result.depth then throw (.tooDeep .written)
  let line := reportLine revision.result
  let output ← writeTo progress.output line
  let errors ← if revision.failed then writeTo progress.errors line else pure progress.errors
  return ⟨tally, output, errors⟩

/-- Handles the lines of a report; a line that is no document is reported. -/
def handleLines (world : World) (progress : Progress) : List Text → Working Progress
  | [] => return progress
  | line :: rest => do
    if Text.isBlankText line then handleLines world progress rest
    else match Json.read line with
      | .error (.malformed description) =>
        (say ("JSON decode hatası: " ++ description)).work
        handleLines world progress rest
      | .error fault => throw fault
      | .ok result =>
        let progress ← handle world progress result
        handleLines world progress rest

def finish (settings : Settings) (tally : Doc) : Working Unit := do
  let path ← CommandLine.pathOf .other settings.statistics
  changeFiles (·.makeFolders (Path.folder path))
  writePieces path (Json.pieces ⟨some 4, true⟩ tally)
  (say ("Saved: " ++ path)).work
  (say ("Errors Saved: " ++ CommandLine.shown settings.errors)).work

def reprocess (world : World) (settings : Settings) (input : Text) : Working Unit := do
  let _ ← locateDatabase world settings.database
  (← currentFiles).canRead input
  let outputPath ← CommandLine.pathOf .other settings.output
  let output ← withFiles (·.create outputPath)
  let errorPath ← CommandLine.pathOf .other settings.errors
  let errors ← withFiles (·.create errorPath)
  -- Only now is the report read: where it is one of the two files just made, it is empty.
  let text ← (← currentFiles).read input
  let progress ← handleLines world ⟨Tally.start, output, errors⟩ (Text.lines text)
  finish settings progress.tally

/-- Compiles and evaluates a report again, if it is there. -/
def run (world : World) (arguments : List Text) : Working Unit := do
  let given ← (CommandLine.ask world.program parameters arguments).work
  let settings := Settings.ofOptions given
  let input ← CommandLine.pathOf .lookUp settings.input
  if (← currentFiles).exist input then reprocess world settings input
  else (say ("Error file not found -> " ++ input)).work

end QueryBench.Reprocess
