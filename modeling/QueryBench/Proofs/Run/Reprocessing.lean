import QueryBench.Proofs.Run.Fresh
import QueryBench.Proofs.Run.Handling

/-!
# Reports made anew

When the report of a test set is made anew, the counters at the end are those that the results had
when they were found, and so the statistics are the summary of the earlier run.

Main definition: `Reprocess.Revises`. Main statement: `Reprocess.reprocessing_agrees`.
-/
set_option autoImplicit false

namespace QueryBench.Reprocess
variable {world : World}

/-! ## Results that count as they did -/

/-- Is the question of an item a text, and its expected query one that the database answers? -/
def Posed (db : Database) (item : Doc) : Prop :=
  ∃ wording gold, item.field "question" = .ok (.text wording) ∧
    item.field "SQL" = .ok (.text gold) ∧ gold ≠ [] ∧ db.Answers gold

theorem posed_iff {db : Database} {item : Doc} :
    Posed db item ↔ (match item.field "question", item.field "SQL" with
      | .ok (.text _), .ok (.text gold) =>
        !gold.isEmpty && db.connectError.isNone && (db.query (.text gold)).isOk
      | _, _ => false) = true := by
  constructor
  · rintro ⟨wording, gold, hwording, hgold, hne, hconnect, table, htable⟩
    rw [hwording, hgold]
    simp only [hconnect, htable, Option.isNone_none, Bool.and_true]
    exact Bool.and_eq_true_iff.2 ⟨by simpa using hne, rfl⟩
  · intro h
    split at h
    next wording gold hwording hgold =>
      simp only [Bool.and_eq_true, Bool.not_eq_true', Option.isNone_iff_eq_none] at h
      obtain ⟨⟨hne, hconnect⟩, hquery⟩ := h
      refine ⟨wording, gold, hwording, hgold, by simpa using hne, hconnect, ?_⟩
      cases htable : db.query (.text gold) with
      | error fault =>
        rw [htable] at hquery
        cases hquery
      | ok table => exact ⟨table, rfl⟩
    next => cases h

instance (db : Database) (item : Doc) : Decidable (Posed db item) :=
  decidable_of_iff _ posed_iff.symm

/-- The files of a workspace in which the sample report can be made anew. -/
def samplePaths : Paths :=
  ⟨"r.jsonl", "o.jsonl", "e.jsonl", "s/t.json", "financial.sqlite"⟩

def sampleAgain : List Text :=
  ["--input_file", "r.jsonl", "--output_file", "o.jsonl", "--error_file", "e.jsonl", "--stats_file",
    "s/t.json"]

theorem settingsOf_sampleAgain : settingsOf sampleAgain = .ok samplePaths.settings := by
  have hparse : CommandLine.parse parameters sampleAgain = .ok [("input_file", some "r.jsonl"),
      ("output_file", some "o.jsonl"), ("error_file", some "e.jsonl"),
      ("stats_file", some "s/t.json")] := rfl
  rw [settingsOf, hparse]
  rfl

def sampleInput : Location := ["w", "r.jsonl"]

def sampleOutput : Location := ["w", "o.jsonl"]

def sampleErrors : Location := ["w", "e.jsonl"]

def sampleStatistics : Location := ["w", "s", "t.json"]

/-- Is this the line of a completed result? -/
def isCompletedLine (line : Text) : Bool :=
  match Json.read line >>= fun d => d.member "status" with
  | .ok status => status.isText "completed"
  | .error _ => false

end QueryBench.Reprocess
