import QueryBench.Console
import QueryBench.Statistics.Chart
import QueryBench.Statistics.Correlation
import QueryBench.Statistics.Query
import QueryBench.Text.Blank

/-!
# Comparing a training set with a test set

Main definitions: `Comparison`, `compareSets`.
-/
set_option autoImplicit false

namespace QueryBench.Statistics

/-- The hardest query of a set, with the greatest counts. -/
structure Hardest where
  joins : Doc
  groups : Doc
  combined : Doc
  question : Doc
  query : Doc

/-- How many queries of a set come with evidence. -/
structure EvidenceCount where
  given : Nat
  missing : Nat

/-- How many databases two sets share. -/
structure Overlap where
  common : Nat
  onlyTrain : Nat
  onlyTest : Nat

structure Comparison where
  trainShares : List (Text × Float)
  testShares : List (Text × Float)
  trainHardest : Hardest
  testHardest : Hardest
  trainEvidence : EvidenceCount
  testEvidence : EvidenceCount
  overlap : Overlap
  tables : Option Dataset
  selectTypes : List (Text × Nat)
  annotations : List Annotation

/-! ## Lengths -/

def wordCounts (column : Column) : Except Fault (List Nat) :=
  column.cells.mapM fun d => do
    let s ← d.textFor "split"
    return (Text.words s).length

/-! ## Databases and evidence -/

def isMissing : Doc → Bool
  | .real x => x.isNaN
  | _ => false

def sameId (a b : Doc) : Bool :=
  a.same b || isMissing a && isMissing b

def distinctIds (column : Column) : Except Fault Column := do
  column.cells.forM Doc.checkKey
  return { column with
    cells := column.cells.foldl (fun ids d => if ids.any (sameId d) then ids else ids ++ [d]) [] }

/-- Is an id of one column among those of another? A missing id is found only if both columns are
mixed: a missing number is not the same as another one. -/
def isAmong (own other : Column) (id : Doc) : Bool :=
  other.cells.any fun d =>
    d.same id || own.form = .mixed && other.form = .mixed && isMissing d && isMissing id

def overlapOf (train test : Column) : Overlap where
  common := train.cells.countP (isAmong train test)
  onlyTrain := train.cells.countP fun d => !isAmong train test d
  onlyTest := test.cells.countP fun d => !isAmong test train d

def evidenceOf (d : Dataset) : Except Fault EvidenceCount := do
  let column ← d.column "evidence"
  let given := column.cells.countP fun c => !c.display.isEmpty
  return ⟨given, d.size - given⟩

/-! ## The hardest query -/

def greatestCount (counts : List (Option Nat)) : Option (Nat × Nat) :=
  (counts.zipIdx).foldl (fun best c => match c.1, best with
    | some n, some (m, i) => if m < n then some (n, c.2) else some (m, i)
    | some n, none => some (n, c.2)
    | none, best => best) none

def greatestDoc (counts : List (Option Nat)) : Doc :=
  match greatestCount counts with
  | some (n, _) => if counts.all Option.isSome then .int n else .real (Float.ofNat n)
  | none => Column.absent

/-- The hardest query of a set: the first with the most joins and groups together. A set without
rows has none. -/
def hardest (d : Dataset) : Except Fault Hardest := do
  let queries ← d.column "SQL"
  let texts ← upperTexts queries
  let joins := occurrences "JOIN" texts
  let groups := occurrences "GROUP BY" texts
  let combined := joins.zipWith (fun a b => do return (← a) + (← b)) groups
  if texts.isEmpty then return ⟨Column.absent, Column.absent, .int 0, .text "", .text ""⟩
  match greatestCount combined with
  | none => throw (.missingKey Column.absent)
  | some (_, i) =>
    let questions ← d.column "question"
    return ⟨greatestDoc joins, greatestDoc groups, greatestDoc combined,
      (questions.cells[i]?).getD .null, (queries.cells[i]?).getD .null⟩

/-! ## Tables and kinds of queries -/

/-- The number of tables of each database; there must be one. -/
def tableCounts (descriptions : Doc) : Except Fault Dataset := do
  let rows : List (List (Text × Doc)) ← (← descriptions.elements).mapM fun d => do
    let id ← d.field "db_id"
    let count ← (← d.field "table_names_original").size
    return [("db_id", id), ("table_count", Doc.int count)]
  let counts ← if rows.isEmpty then pure Dataset.empty else Dataset.ofFields rows
  let _ ← counts.column "table_count"
  return counts

def tallyNames (names : List Text) : List (Text × Nat) :=
  let sorted := names.mergeSort fun a b => a ≤ b
  sorted.eraseReps.map fun n => (n, names.count n)

/-! ## The comparison -/

def loadSet (folder path : Text) (content : Option Doc) : Traced (Option Dataset) := do
  match content with
  | none =>
    say ("Error: File not found -> " ++ folder ++ path)
    return none
  | some doc => some <$> Dataset.ofDoc doc

def sampleSize : Nat := 500

def compareLoaded (folder : Text) (train test : Dataset) (descriptions : Option Doc)
    (bars : List Bar) : Traced Comparison := do
  say ("Train samples: " ++ toString train.size)
  say ("Test samples: " ++ toString test.size)
  let counts ← annotateCounts bars
  let lengths ← wordCounts (← train.column "question")
  let _ ← wordCounts (← test.column "question")
  let trainIds ← distinctIds (← train.column "db_id")
  let testIds ← distinctIds (← test.column "db_id")
  let overlap := overlapOf trainIds testIds
  say ("Databases in both sets: " ++ toString overlap.common)
  say ("Databases ONLY in Train: " ++ toString overlap.onlyTrain)
  say ("Databases ONLY in Test (Unseen): " ++ toString overlap.onlyTest)
  let trainEvidence ← evidenceOf train
  let testEvidence ← evidenceOf test
  let queries ← train.column "SQL"
  let queryLengths ← wordCounts queries
  say ("Correlation between Question and SQL length: " ++
    Number.fixedText 2 (correlation lengths queryLengths))
  if train.size = 0 then throw .sampleOfNothing
  if train.size < sampleSize then throw .sampleTooLarge
  let trainShares ← keywordShares train
  let testShares ← keywordShares test
  let shares ← annotateShares bars
  let trainHardest ← hardest train
  let testHardest ← hardest test
  let tables ← match descriptions with
    | some d => some <$> tableCounts d
    | none => do
      say ("Uyarı: Tablo dosyası bulunamadı (" ++ folder ++
        "/data/train/train_tables.json), 8. adım atlanıyor.")
      pure none
  return { trainShares, testShares, trainHardest, testHardest, trainEvidence, testEvidence,
           overlap, tables, selectTypes := tallyNames (queries.cells.map selectType),
           annotations := counts ++ shares }

def compareSets (folder : Text) (train test descriptions : Option Doc) (bars : List Bar) :
    Traced Comparison := do
  let train? ← loadSet folder "/data/train/train.json" train
  let test? ← loadSet folder "/data/dev_20240627/dev.json" test
  match train?, test? with
  | some train, some test => compareLoaded folder train test descriptions bars
  | _, _ =>
    say "File can not be found"
    throw (.exit "")

end QueryBench.Statistics
