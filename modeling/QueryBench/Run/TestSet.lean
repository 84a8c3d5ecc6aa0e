import QueryBench.CommandLine.Help
import QueryBench.Pipeline.Run
import QueryBench.Run.Workspace
import QueryBench.Tally

/-!
# Running a test set

The questions of a test set are run one by one, each result being added to the report at once. A
run that finds a report goes on behind it.

Main definitions: `TestSet.Settings`, `TestSet.questionsOf`, `TestSet.run`.
-/
set_option autoImplicit false

namespace QueryBench.TestSet

/-- What a run is asked to do. -/
structure Settings where
  data : CommandLine.Value
  moreData : CommandLine.Value
  limit : Option Int
  output : CommandLine.Value
  hints : Bool
  model : CommandLine.Value

def parameters : List CommandLine.Parameter :=
  [⟨"data_path", false⟩, ⟨"data_path_2", false⟩, ⟨"limit", true⟩, ⟨"output", false⟩,
    ⟨"hint", false⟩, ⟨"model", false⟩]

def Settings.ofOptions (given : List (Text × CommandLine.Value)) : Settings where
  data := CommandLine.valueOf given "data_path" "data/dev_20240627/dev.json"
  moreData := CommandLine.valueOf given "data_path_2" "data/dev_20240627/dev_tied_append.json"
  limit := CommandLine.numberOf given "limit" 200
  output := CommandLine.valueOf given "output" "results/pipeline_test_report_gpt_with_hint.jsonl"
  hints := (CommandLine.valueOf given "hint" "True").getD "" ≠ ""
  model := CommandLine.valueOf given "model" "gpt"

def summaryPath (output : Text) : Text :=
  Text.replaceAll ".jsonl" "_summary.json" output

def Settings.paths (settings : Settings) : List Text :=
  settings.data.toList ++ settings.moreData.toList ++
    settings.output.toList.flatMap fun output => [output, summaryPath output]

def isFinancial (item : Doc) : Except Fault Bool := do
  return (← item.member "db_id").isText "financial"

def questionsOf (data : Doc) : Except Fault (List Doc) := do
  (← data.elements).filterM isFinancial

/-- The questions of a file; a file that is not there has none. -/
def load (files : Files) (path : Text) : Except Fault (List Doc) :=
  if files.exist path then do
    let text ← files.read path
    let data ← Json.read text
    questionsOf data
  else .ok []

/-- The counters after the lines of an earlier report, and how many of them are results. Lines
that are no documents are passed over. -/
def resume (tally : Doc) (done : Nat) : List Text → Except Fault (Doc × Nat)
  | [] => .ok (tally, done)
  | line :: rest =>
    if Text.isBlankText line then resume tally done rest
    else match Json.read (Text.trim line) with
      | .ok result => do
        let tally ← Tally.count tally result
        resume tally (done + 1) rest
      | .error (.malformed _) => resume tally done rest
      | .error fault => .error fault

def inquiryOf (hints : Bool) (item : Doc) : Except Fault Inquiry := do
  let question ← item.field "question"
  let gold ← item.field "SQL"
  let hint ← if hints then item.member "evidence" else pure .null
  return ⟨question, .text "financial", gold, hint⟩

/-- The line of a result in a report; what goes too deep to be read is not written either. -/
def reportLine (result : Doc) : Except Fault Text := do
  if Json.depthLimit < result.depth then throw (.tooDeep .written)
  return (← Json.writeChecked .line result) ++ "\n"

/-- Runs the items and adds each to the report; gives the counters at the end. -/
def runItems (pipeline : Pipeline) (hints : Bool) (output : Text) (tally : Doc) :
    List Doc → Working Doc
  | [] => return tally
  | item :: rest => do
    let inquiry ← inquiryOf hints item
    let outcome ← inSession (pipeline.process inquiry)
    let result := outcome.toDoc
    let tally ← Tally.count tally result
    let line ← reportLine result
    changeFiles (·.append output line)
    runItems pipeline hints output tally rest

def summaryStyle : Json.Style := ⟨some 4, true⟩

def summarize (output : Text) (tally : Doc) : Working Unit := do
  let text ← Json.writeChecked summaryStyle tally
  (say text).work
  changeFiles (·.write (summaryPath output) text)

def runRemaining (pipeline : Pipeline) (hints : Bool) (output : Text) (items : List Doc) :
    Working Unit := do
  let files ← currentFiles
  let earlier ← if files.exist output then files.read output else pure ""
  let (tally, done) ← resume Tally.start 0 (Text.lines earlier)
  if done < items.length then
    -- The last line of a report may have been cut off and must not run into the next one.
    changeFiles (·.append output (if earlier.isEmpty then "" else "\n"))
    let tally ← runItems pipeline hints output tally (items.drop done)
    summarize output tally

/-- The first items, as many as the limit says; one that is not positive lets all through. -/
def limited (limit : Option Int) (items : List Doc) : Except Fault (List Doc) :=
  match limit with
  | some n => .ok (if 0 < n then items.take n.toNat else items)
  | none => .error (.unordered ">" .list .int)

def run (world : World) (arguments : List Text) : Working Unit := do
  let given ← (CommandLine.ask world.program parameters arguments).work
  let settings := Settings.ofOptions given
  let pipeline ← (Pipeline.start world (settings.model.getD "")).work
  let files ← currentFiles
  let items ← load files (← CommandLine.pathOf .lookUp settings.data)
  let more ← load files (← CommandLine.pathOf .lookUp settings.moreData)
  let all := items ++ more
  if !all.isEmpty then
    let chosen ← limited settings.limit all
    let output ← CommandLine.pathOf .lookUp settings.output
    runRemaining pipeline settings.hints output chosen

end QueryBench.TestSet
