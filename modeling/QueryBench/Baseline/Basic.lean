import QueryBench.CommandLine.Help
import QueryBench.Dataset.Basic
import QueryBench.Dataset.Dialect
import QueryBench.Evaluation
import QueryBench.Json.Writer
import QueryBench.Run.Workspace

/-!
# Baselines

A baseline is a file of predicted queries, compared with the expected queries of a dataset.

Main definitions: `Baseline.Settings`, `Baseline.Score`, `Baseline.readDataset`.
-/
set_option autoImplicit false

namespace QueryBench.Baseline

/-- The files of a comparison. -/
structure Settings where
  predictions : CommandLine.Value
  data : CommandLine.Value
  moreData : CommandLine.Value
  database : CommandLine.Value
  output : CommandLine.Value

def parameters : List CommandLine.Parameter :=
  [⟨"pred_file", false⟩, ⟨"dev_path", false⟩, ⟨"append_path", false⟩, ⟨"db_path", false⟩,
    ⟨"output", false⟩]

def Settings.ofOptions (method : Text) (given : List (Text × CommandLine.Value)) :
    Settings where
  predictions := CommandLine.valueOf given "pred_file" ("baselines/" ++ method ++ "/results.json")
  data := CommandLine.valueOf given "dev_path" "data/dev_20240627/dev.json"
  moreData := CommandLine.valueOf given "append_path" "data/dev_20240627/dev_tied_append.json"
  database := CommandLine.valueOf given "db_path"
    "data/dev_20240627/dev_databases/financial/financial.sqlite"
  output := CommandLine.valueOf given "output" ("results/" ++ method ++ "_final_report.json")

def Settings.paths (settings : Settings) : List Text :=
  [settings.predictions, settings.data, settings.moreData, settings.output].flatMap Option.toList

/-- The results of a comparison in numbers, each in a counter of its own. -/
structure Score where
  total : Nat := 0
  success : Nat := 0
  exact : Nat := 0
  strict : Nat := 0
  soft : Nat := 0
  superSoft : Nat := 0
  wrong : Nat := 0
  errors : Nat := 0
  missing : Nat := 0

namespace Score

def countAsked (s : Score) : Score :=
  { s with total := s.total + 1 }

def countMissing (s : Score) : Score :=
  { s with missing := s.missing + 1 }

def countError (s : Score) : Score :=
  { s with errors := s.errors + 1 }

def countWrong (s : Score) : Score :=
  { s with wrong := s.wrong + 1 }

def countSuccess (s : Score) : Score :=
  { s with success := s.success + 1 }

def countExact (s : Score) : Score :=
  { s with exact := s.exact + 1 }

def countStrict (s : Score) : Score :=
  { s with strict := s.strict + 1 }

def countSoft (s : Score) : Score :=
  { s with soft := s.soft + 1 }

def countSuperSoft (s : Score) : Score :=
  { s with superSoft := s.superSoft + 1 }

def accuracy (s : Score) : Float :=
  Float.ofNat s.success / Float.ofNat s.total * 100.0

/-- The fields of a score, the questions without prediction being named `missing`. -/
def fields (s : Score) (missing : Text) : List (Text × Doc) :=
  [("total", .int s.total), ("success", .int s.success), ("exact_match", .int s.exact),
    ("strict_match", .int s.strict), ("soft_match", .int s.soft),
    ("super_soft_match", .int s.superSoft), ("wrong", .int s.wrong), ("errors", .int s.errors),
    (missing, .int s.missing)]

end Score

def readDataset (files : Files) (path : Text) : Except Fault Dataset := do
  let text ← files.read path
  let doc ← Json.readWith Dataset.dialect text
  Dataset.read doc

def financialRows (d : Dataset) : Except Fault Dataset := do
  let ids ← d.column "db_id"
  return d.filterBy ids (·.isText "financial")

def cell (row : Row) (name : Text) : Except Fault Doc :=
  match row.cell? name with
  | some d => .ok d
  | none => .error (.missingKey (.text name))

/-- What stands between a predicted query and the name of its database. -/
def mark : Text :=
  "\t----- bird -----"

/-- The line around the heading of a summary. -/
def rule : Text :=
  Text.replicate 40 '='

def reportDoc (summary : List (Text × Doc)) (details : List Doc) : Doc :=
  .record [("summary", .record summary), ("details", .list details)]

end QueryBench.Baseline
