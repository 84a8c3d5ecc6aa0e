import QueryBench.Baseline.Keyed
import QueryBench.Baseline.Positional
import QueryBench.Proofs.Evaluation

/-!
# What becomes of each question

Both comparisons go through their questions one after the other. A question has no prediction, or its
prediction is evaluated. What was found gives the question a place in the report and a heading, under
which it is counted. So a score is known by these headings.

Main definitions: `Baseline.Heading`, `Score.Counts`, `Keyed.Judged`, `Positional.Judged`. Main
statements: `Keyed.ensures_judgeAll`, `Positional.ensures_judgeAll`, `Score.Counts.total_eq`.
-/
set_option autoImplicit false

namespace QueryBench

/-! ## Grades of evaluations -/

theorem grade_mem {gold predicted : Execution} {quality : Match} {reason : Option Text}
    (h : grade gold predicted = .ok (quality, reason)) :
    quality ∈ [Match.exact, .strict, .superSoft, .wrong] := by
  rw [grade] at h
  by_cases hsame : gold.sameRows predicted = true
  · rw [if_pos hsame] at h
    cases h
    decide
  · rw [if_neg hsame] at h
    -- a soft match is looked for, but whatever comes of it is overridden
    obtain ⟨soft, -, h⟩ := ok_of_bind h
    obtain ⟨strict, -, h⟩ := ok_of_bind h
    cases strict with
    | true =>
      cases h
      decide
    | false =>
      obtain ⟨⟨holds, text⟩, -, h⟩ := ok_of_bind h
      cases holds with
      | true =>
        cases h
        decide
      | false =>
        cases h
        decide

/-- A prediction that could not be run has no grade, and any other has one. -/
theorem evaluated_kinds {db : Database} {question : Question} {e : Evaluation}
    (h : evaluated db question = .ok e) :
    e.sqlError = true ∧ e.quality = .none ∨
      e.sqlError = false ∧ e.quality ∈ [Match.exact, .strict, .superSoft, .wrong] := by
  have hgraded {gold predicted : Execution} (h : gradedBy question gold predicted = .ok e) :
      e.sqlError = false ∧ e.quality ∈ [Match.exact, .strict, .superSoft, .wrong] := by
    obtain ⟨⟨quality, reason⟩, hgrade, h⟩ := ok_of_bind h
    cases h
    exact ⟨rfl, grade_mem hgrade⟩
  unfold evaluated at h
  dsimp only at h
  split at h
  · split at h
    · exact .inr (hgraded h)
    · cases h
      exact .inl ⟨rfl, rfl⟩
  · exact .inr (hgraded h)

namespace Baseline

/-! ## Headings -/

/-- What a question is counted under. -/
inductive Heading where
  | exact
  | strict
  | soft
  | superSoft
  | wrong
  | errors
  | missing
  deriving DecidableEq

/-- Is a question under this heading answered as expected? -/
def Heading.isMatch : Heading → Bool
  | .exact | .strict | .soft | .superSoft => true
  | .wrong | .errors | .missing => false

/-- The counter of a heading. -/
def Score.under (s : Score) : Heading → Nat
  | .exact => s.exact
  | .strict => s.strict
  | .soft => s.soft
  | .superSoft => s.superSoft
  | .wrong => s.wrong
  | .errors => s.errors
  | .missing => s.missing

/-- The score with one more question, counted under a heading. -/
def Score.file (s : Score) : Heading → Score
  | .exact => s.countAsked.countExact.countSuccess
  | .strict => s.countAsked.countStrict.countSuccess
  | .soft => s.countAsked.countSoft.countSuccess
  | .superSoft => s.countAsked.countSuperSoft.countSuccess
  | .wrong => s.countAsked.countWrong
  | .errors => s.countAsked.countError
  | .missing => s.countAsked.countMissing

/-- The heading of a match: what is none is wrong. -/
def headingOf : Match → Heading
  | .exact => .exact
  | .strict => .strict
  | .soft => .soft
  | .superSoft => .superSoft
  | .wrong | .none => .wrong

/-- The questions that a score has counted, by their headings. -/
structure Score.Counts (s : Score) (headings : List Heading) : Prop where
  total : s.total = headings.length
  success : s.success = headings.countP Heading.isMatch
  under : ∀ h, s.under h = headings.count h

namespace Score.Counts
variable {s : Score} {headings : List Heading}

theorem empty : Score.Counts {} [] :=
  ⟨rfl, rfl, fun h => by cases h <;> rfl⟩

theorem file (hs : s.Counts headings) (heading : Heading) :
    (s.file heading).Counts (headings ++ [heading]) := by
  have htotal : (s.file heading).total = s.total + 1 := by cases heading <;> rfl
  have hsuccess : (s.file heading).success = s.success + [heading].countP Heading.isMatch := by
    cases heading <;> rfl
  have hunder (h : Heading) :
      (s.file heading).under h = s.under h + [heading].count h := by
    cases heading <;> cases h <;> rfl
  refine ⟨?_, ?_, fun h => ?_⟩
  · rw [htotal, hs.total, List.length_append]
    rfl
  · rw [hsuccess, hs.success, List.countP_append]
  · rw [hunder, hs.under, List.count_append]

theorem foldl (hs : s.Counts headings) (more : List Heading) :
    (more.foldl Score.file s).Counts (headings ++ more) := by
  induction more generalizing s headings with
  | nil => rwa [List.append_nil]
  | cons heading more ih =>
    have hrest := ih (hs.file heading)
    rwa [List.append_assoc] at hrest

/-- The successes, which have a counter of their own, are as many as the matches of all kinds. -/
theorem success_eq (hs : s.Counts headings) :
    s.success = s.exact + s.strict + s.soft + s.superSoft := by
  have hsum : headings.countP Heading.isMatch = headings.count .exact + headings.count .strict +
      headings.count .soft + headings.count .superSoft := by
    clear hs
    induction headings with
    | nil => rfl
    | cons heading rest ih => cases heading <;> simp [List.countP_cons, Heading.isMatch, ih] <;> omega
  have hkinds : s.exact + s.strict + s.soft + s.superSoft = s.under .exact + s.under .strict +
      s.under .soft + s.under .superSoft := rfl
  rw [hs.success, hsum, hkinds]
  simp only [hs.under]

/-- Every question is a success, wrong, an error or without prediction. -/
theorem total_eq (hs : s.Counts headings) :
    s.total = s.success + s.wrong + s.errors + s.missing := by
  have hsum : headings.length = headings.countP Heading.isMatch + headings.count .wrong +
      headings.count .errors + headings.count .missing := by
    clear hs
    induction headings with
    | nil => rfl
    | cons heading rest ih => cases heading <;> simp [List.countP_cons, Heading.isMatch, ih] <;> omega
  have hothers : s.wrong = s.under .wrong ∧ s.errors = s.under .errors ∧
      s.missing = s.under .missing := ⟨rfl, rfl, rfl⟩
  rw [hs.total, hsum, hs.success, hothers.1, hothers.2.1, hothers.2.2]
  simp only [hs.under]

end Score.Counts

/-! ## Predictions by question id -/

namespace Keyed

/-- What a question with an id leads to: the evaluation of its prediction, if it has one, and its place
in the report. -/
inductive Judged (db : Database) (predictions : Doc) (id : Text) (row : Row) :
    Option Evaluation → Doc → Prop where
  | missing (h : predictions.member id = .ok .null) :
      Judged db predictions id row none
        (.record [("question_id", .text id), ("status", .text "missing_prediction")])
  | evaluated {raw gold : Doc} {e : Evaluation} (h : predictions.member id = .ok raw)
      (hraw : raw ≠ .null) (hgold : cell row "SQL" = .ok gold)
      (he : QueryBench.evaluated db ⟨.text id, (row.cell? "question").getD (.text ""), gold,
        .text (clean raw), .record []⟩ = .ok e) :
      Judged db predictions id row (some e) e.toDoc

/-- The heading of a question: that of its match, unless its query could not be run. -/
def headingOf : Option Evaluation → Heading
  | none => .missing
  | some e => if e.sqlError then .errors else Baseline.headingOf e.quality

theorem count_eq (score : Score) (e : Evaluation) :
    count score.countAsked e = score.file (headingOf (some e)) := by
  obtain ⟨question, sqlError, quality, reason, gold, predicted⟩ := e
  cases sqlError with
  | true => rfl
  | false => cases quality <;> rfl

/-- The id of a question as it is shown. -/
def shownId (row : Row) : Text :=
  ((row.cell? "question_id").getD (.text "")).display

theorem ensures_judge (db : Database) (predictions : Doc) (score : Score) (row : Row) :
    Ensures (judge db predictions score row) fun r =>
      ∃ finding, Judged db predictions (shownId row) row finding r.2 ∧
        r.1 = score.file (headingOf finding) := by
  refine (Ensures.lift fun gold hgold => hgold).bind fun gold hgold =>
    (Ensures.lift fun raw hraw => hraw).bind fun raw hraw => ?_
  have hevaluated (hne : raw ≠ .null) : Ensures (do
      let e ← evaluate db ⟨.text (shownId row), (row.cell? "question").getD (.text ""), gold,
        .text (clean raw), .record []⟩
      return (count score.countAsked e, e.toDoc))
      fun r : Score × Doc => ∃ finding, Judged db predictions (shownId row) row finding r.2 ∧
        r.1 = score.file (headingOf finding) := by
    exact (Ensures.of_yields (yields_evaluate db _)).bind fun e he =>
      .pure ⟨some e, .evaluated hraw hne hgold he, count_eq score e⟩
  cases raw with
  | null => exact .pure ⟨none, .missing hraw, rfl⟩
  | _ => exact hevaluated (by simp)

theorem ensures_judgeAll (db : Database) (predictions : Doc) (score : Score) (rows : List Row) :
    Ensures (judgeAll db predictions score rows) fun r => ∃ found : List (Option Evaluation × Doc),
      List.Forall₂ (fun row f => Judged db predictions (shownId row) row f.1 f.2) rows found ∧
      r.2 = found.map Prod.snd ∧
      r.1 = (found.map fun f => headingOf f.1).foldl Score.file score := by
  induction rows generalizing score with
  | nil => exact .pure ⟨[], .nil, rfl, rfl⟩
  | cons row rest ih =>
    refine (ensures_judge db predictions score row).bind ?_
    rintro ⟨score', detail⟩ ⟨finding, hjudged, rfl⟩
    refine (ih _).bind ?_
    rintro ⟨score'', details⟩ ⟨found, hfound, rfl, rfl⟩
    exact .pure ⟨(finding, detail) :: found, .cons hjudged hfound, rfl, rfl⟩

theorem settled_judge (db : Database) (predictions : Doc) (score : Score) (row : Row) :
    Settled (judge db predictions score row) := by
  refine (Settled.lift _).bind fun gold => (Settled.lift _).bind fun raw => ?_
  have hevaluate (question : Question) : Settled (evaluate db question) :=
    ⟨_, yields_evaluate db question⟩
  cases raw with
  | null => exact .pure _
  | _ => exact (hevaluate _).bind fun _ => .pure _

theorem settled_judgeAll (db : Database) (predictions : Doc) (score : Score) (rows : List Row) :
    Settled (judgeAll db predictions score rows) := by
  induction rows generalizing score with
  | nil => exact .pure _
  | cons row rest ih =>
    exact (settled_judge db predictions score row).bind fun _ => (ih _).bind fun _ => .pure _

end Keyed

/-! ## Predictions by position -/

namespace Positional

/-- The id of a question, its position if it has none. -/
def idOf (row : Row) (position : Nat) : Doc :=
  (row.cell? "question_id").getD (.int position)

/-- What the question at a position leads to: the evaluation of its prediction, if it has one, and its
place in the report. -/
inductive Judged (db : Database) (predictions : Doc) (row : Row) (position : Nat) :
    Option Evaluation → Doc → Prop where
  | missing {gold : Doc} (h : predictions.has (toString position) = .ok false)
      (hgold : cell row "SQL" = .ok gold) :
      Judged db predictions row position none (.record [("question_id", idOf row position),
        ("status", .text "MISSING_PREDICTION"), ("gt_sql", gold)])
  | evaluated {raw wording gold : Doc} {query : Text} {e : Evaluation}
      (h : predictions.field (toString position) = .ok raw) (hquery : clean raw = .ok query)
      (hwording : cell row "question" = .ok wording) (hgold : cell row "SQL" = .ok gold)
      (he : QueryBench.evaluated db ⟨idOf row position, wording, gold, .text query, .null⟩ = .ok e) :
      Judged db predictions row position (some e) (.record [
        ("index", .int position), ("question", wording), ("gt_sql", gold), ("pred_sql", .text query),
        ("raw_pred", raw), ("eval_result", e.toDoc)])

/-- The heading of a question: that of its match, even if its query could not be run. -/
def headingOf : Option Evaluation → Heading
  | none => .missing
  | some e => Baseline.headingOf e.quality

/-- That a query could not be run is a status and not a match. -/
theorem label_ne_sqlError (quality : Match) : quality.label ≠ "SQL_ERROR" := by
  cases quality <;> decide

/-- No question is counted as an error. -/
theorem count_eq (score : Score) (e : Evaluation) :
    count score.countAsked e = score.file (headingOf (some e)) := by
  obtain ⟨question, sqlError, quality, reason, gold, predicted⟩ := e
  unfold count
  dsimp only
  rw [if_neg (label_ne_sqlError quality)]
  cases quality <;> rfl

theorem ensures_judge (db : Database) (predictions : Doc) (score : Score) (position : Nat) (row : Row) :
    Ensures (judge db predictions score position row) fun r =>
      ∃ finding, Judged db predictions row position finding r.2 ∧
        r.1 = score.file (headingOf finding) := by
  refine (Ensures.lift fun wording hwording => hwording).bind fun wording hwording =>
    (Ensures.lift fun gold hgold => hgold).bind fun gold hgold =>
    (Ensures.lift fun there hthere => hthere).bind fun there hthere => ?_
  cases there with
  | true =>
    refine (Ensures.lift fun raw hraw => hraw).bind fun raw hraw =>
      (Ensures.lift fun query hquery => hquery).bind fun query hquery =>
      (Ensures.of_yields (yields_evaluate db _)).bind fun e he => ?_
    exact .pure ⟨some e, .evaluated hraw hquery hwording hgold he, count_eq score e⟩
  | false => exact .pure ⟨none, .missing hthere hgold, rfl⟩

theorem ensures_judgeAll (db : Database) (predictions : Doc) (score : Score) (position : Nat)
    (rows : List Row) :
    Ensures (judgeAll db predictions score position rows) fun r =>
      ∃ found : List (Option Evaluation × Doc),
        List.Forall₂ (fun p f => Judged db predictions p.1 p.2 f.1 f.2) (rows.zipIdx position) found ∧
        r.2 = found.map Prod.snd ∧
        r.1 = (found.map fun f => headingOf f.1).foldl Score.file score := by
  induction rows generalizing score position with
  | nil => exact .pure ⟨[], .nil, rfl, rfl⟩
  | cons row rest ih =>
    refine (ensures_judge db predictions score position row).bind ?_
    rintro ⟨score', detail⟩ ⟨finding, hjudged, rfl⟩
    refine (ih _ _).bind ?_
    rintro ⟨score'', details⟩ ⟨found, hfound, rfl, rfl⟩
    exact .pure ⟨(finding, detail) :: found, .cons hjudged hfound, rfl, rfl⟩

theorem settled_judge (db : Database) (predictions : Doc) (score : Score) (position : Nat) (row : Row) :
    Settled (judge db predictions score position row) := by
  refine (Settled.lift _).bind fun wording => (Settled.lift _).bind fun gold =>
    (Settled.lift _).bind fun there => ?_
  cases there with
  | true =>
    exact (Settled.lift _).bind fun raw => (Settled.lift _).bind fun query =>
      Settled.bind ⟨_, yields_evaluate db _⟩ fun _ => .pure _
  | false => exact .pure _

theorem settled_judgeAll (db : Database) (predictions : Doc) (score : Score) (position : Nat)
    (rows : List Row) : Settled (judgeAll db predictions score position rows) := by
  induction rows generalizing score position with
  | nil => exact .pure _
  | cons row rest ih =>
    exact (settled_judge db predictions score position row).bind fun _ => (ih _ _).bind fun _ => .pure _

end Positional

end Baseline

end QueryBench
