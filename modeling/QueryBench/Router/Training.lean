import QueryBench.Doc.Format
import QueryBench.Json.Reader
import QueryBench.Router.Examples

/-!
# Training the router

The router is trained on fixed texts and saved. It is then tested on texts of chat, on questions of
a dataset and on texts of both kinds.

Main definitions: `Training.Step`, what is asked of the training library, `Training.Setting`, and
`Training.run`.
-/
set_option autoImplicit false

namespace QueryBench

def Intent.number : Intent → Int
  | .chat => 0
  | .query => 1

def Intent.shortLabel : Intent → Text
  | .chat => "CHAT"
  | .query => "SQL"

namespace Training

/-- How a model is trained: where results go, how fast it learns, how many texts it sees at once and
how often all of them, how its weights decay, and after how many steps it is logged. -/
structure Options where
  folder : Text
  rate : Float
  batch : Nat
  epochs : Nat
  decay : Float
  logEvery : Nat

def routerOptions : Options where
  folder := "./results"
  rate := 2e-5
  batch := 4
  epochs := 5
  decay := 0.01
  logEvery := 1

def tokenLimit : Nat := 128

/-- What is asked of the training library. -/
inductive Step where
  | seed (number : Nat)
  | seedDevices (number : Nat)
  | dataset (examples : List (Text × Intent))
  | split (share : Float)
  | loadTokenizer (path : Text)
  | mapBatches
  | tokenizeBatch (texts : List Text)
  | loadModel (path : Text) (labels : Option Nat)
  | configure (options : Options)
  | trainer
  | train
  | saveModel (path : Text)
  | saveTokenizer (path : Text)
  | tokenize (text : Doc) (limit : Nat)
  | harmonicScore (expected predicted : List Intent)
  | classReport (expected predicted : List Intent)

/-- What a training finds outside: the version of the system, a graphics device, the questions to
test with, the router's replies, and what the library says of the results. -/
structure Setting where
  version : Text
  device : Option Text
  questions : Option Doc
  services : Services
  score : Doc
  report : Doc

/-- A session and the steps taken so far. -/
structure State where
  session : Session
  steps : List Step
  deriving Inhabited

/-- A computation that takes steps and may stop at a fault. -/
abbrev Running := ExceptT Fault (StateM State)

def ofActing {α : Type} (act : Acting α) : Running α :=
  ExceptT.mk fun t =>
    let (outcome, session) := act.run.run t.session
    (outcome, { t with session })

def note (line : Text) : Running Unit :=
  ofActing (say line).act

def take (step : Step) : Running Unit :=
  modify fun t => { t with steps := t.steps ++ [step] }

def seedNumber : Nat := 42

def prepare (setting : Setting) : Running Unit := do
  take (.seed seedNumber)
  if setting.device.isSome then take (.seedDevices seedNumber)
  note "--- System Information ---"
  note ("Python Version: " ++ setting.version)
  note ("Used Device: " ++ if setting.device.isSome then "cuda" else "cpu")
  match setting.device with
  | some name =>
    note ("Graphic Card: " ++ name)
    note "GPU is ready"
  | none => note "CPU is ready"

def baseModel : Text :=
  "distilbert-base-uncased"

def savePath : Text :=
  "./my_router_model2"

def fit : Running Unit := do
  let texts := Router.trainingExamples.map Prod.fst
  [.dataset Router.trainingExamples, .split 0.2, .loadTokenizer baseModel, .mapBatches,
    .tokenizeBatch (texts.take 2), .loadModel baseModel (some 2), .configure routerOptions,
    .trainer].forM take
  note "\nTraining Start"
  [.train, .saveModel savePath, .saveTokenizer savePath].forM take
  note ("\nModel saved to '" ++ savePath ++ "'")

/-! ## The test -/

def testedPath : Text :=
  "./my_router_model"

def questionPath : Text :=
  "data/dev_20240627/dev.json"

def sampleQuestions (questions : Option Doc) : Except Fault (List Doc) := do
  match questions with
  | none => throw (.noFile questionPath)
  | some data =>
    let count ← data.size
    let items ← data.elements
    (items.take (min 20 count)).mapM (·.field "question")

/-- The beginning of a text, as wide as the table's first column allows. -/
def beginning (text : Doc) : Except Fault Doc :=
  match text with
  | .text s => .ok (.text (s.take 48))
  | .list items => .ok (.list (items.take 48))
  | .record _ => .error .recordSlice
  | d => .error (.notSubscriptable d.kind)

def firstColumn (text : Doc) : Except Fault Text := do
  match ← beginning text with
  | .text s => return Text.padRight 50 s
  | d => throw (.noWidth d.kind)

def row (text : Doc) (expected predicted : Text) (confidence : Doc) : Except Fault Text := do
  let first ← firstColumn text
  let share ← confidence.percent
  return first ++ " | " ++ Text.padRight 7 expected ++ " | " ++ Text.padRight 7 predicted ++
    " | %" ++ share

def shownFirst : Nat := 5

/-- Tests the router on a text and gives the intent it predicts. A wrong prediction is shown. -/
def testOne (setting : Setting) (position : Nat) (text : Doc) (expected : Intent) :
    Running Intent := do
  take (.tokenize text tokenLimit)
  let (predicted, confidence) ← ofActing (predictIntent setting.services text)
  if predicted ≠ expected then
    note (← row text expected.shortLabel predicted.shortLabel confidence)
  if position < shownFirst then
    note (← row text (toString expected.number) (toString predicted.number) confidence)
  return predicted

/-- Tests the router on texts, of which the first has a position. -/
def testAll (setting : Setting) (position : Nat) : List (Doc × Intent) → Running (List Intent)
  | [] => return []
  | (text, expected) :: rest => do
    let predicted ← testOne setting position text expected
    let more ← testAll setting (position + 1) rest
    return predicted :: more

def rule : Text :=
  Text.replicate 85 '-'

def summarize (setting : Setting) (expected predicted : List Intent) : Running Unit := do
  let total := expected.length
  let correct := (expected.zip predicted).countP fun p => p.1 = p.2
  let accuracy := Float.ofNat correct / Float.ofNat total * 100.0
  take (.harmonicScore expected predicted)
  note rule
  note "\n--- FINAL RESULTS ---"
  note ("Total Test Samples    : " ++ toString total)
  note ("Correct Predictions   : " ++ toString correct)
  note ("Overall Accuracy      : %" ++ Number.fixedText 2 accuracy)
  note ("F1-Score              : " ++ (← setting.score.fixed 4))
  note (Text.replicate 30 '-')
  note "\nDETAILED CLASSIFICATION REPORT:"
  take (.classReport expected predicted)
  note setting.report.display

def test (setting : Setting) : Running (List Doc) := do
  take (.loadTokenizer testedPath)
  take (.loadModel testedPath none)
  let questions ← sampleQuestions setting.questions
  let tests := Router.chatTests.map (fun t => (Doc.text t, Intent.chat)) ++
    questions.map (·, Intent.query) ++ Router.mixedTests.map fun t => (Doc.text t.1, t.2)
  note (Text.padRight 50 "Input" ++ " | " ++ Text.padRight 7 "True" ++ " | " ++
    Text.padRight 7 "Pred" ++ " | Conf")
  note rule
  let predicted ← testAll setting 0 tests
  summarize setting (tests.map Prod.snd) predicted
  return questions

/-- Trains the router and, if wanted, tests it; gives the questions it was tested with. -/
def run (setting : Setting) (tested : Bool) : Running (Option (List Doc)) := do
  prepare setting
  fit
  if tested then some <$> test setting else return none

end Training

end QueryBench
