import QueryBench.Proofs.Compare.ColumnMap

/-!
# What an evaluation reports

An evaluation stops with a fault in one case: the expected query fails and the predicted one does not.
In all other cases it reports how well the answers match. The comparisons are tried one after the
other and each overrides the one before, so what is reported is the strictest match that holds, except
that a soft match is reported as a super soft one.

The lenient comparison holds of an expected answer without rows, whatever the predicted answer is. So
such an answer is matched by any other, although the soft comparison refuses it.

Main definitions: `Graded`, `Database.AnswersWith`. Main statements: `evaluate_reports`,
`empty_gold_matched`.
-/
set_option autoImplicit false

namespace QueryBench

open Compare

/-- The rows of an answer as a document. -/
def textTable (rows : List (List Text)) : Doc :=
  tableDoc (rows.map fun row => row.map .text)

/-- The match of two answers by their rows. -/
inductive Graded (expected got : List (List Text)) : Match → Prop where
  | exact (h : expected = got) : Graded expected got .exact
  | strict (hne : expected ≠ got) (h : ∀ row, row ∈ expected ↔ row ∈ got) :
      Graded expected got .strict
  | superSoft (hne : expected ≠ got) (hset : ¬ ∀ row, row ∈ expected ↔ row ∈ got)
      (h : ∃ reason, Compare.superSoft (textTable expected) (textTable got) = .ok ⟨true, reason⟩) :
      Graded expected got .superSoft
  | wrong (hne : expected ≠ got) (hset : ¬ ∀ row, row ∈ expected ↔ row ∈ got)
      (h : ∃ reason, Compare.superSoft (textTable expected) (textTable got) = .ok ⟨false, reason⟩) :
      Graded expected got .wrong

/-- The database answers a query with a table. -/
def Database.AnswersWith (db : Database) (sql : Text) (table : Table) : Prop :=
  db.connectError = none ∧ db.query (.text sql) = .ok table

/-! ## Rows as sets -/

theorem rowsDoc_answered (rows : List (List Text)) (columns : List Text) :
    (Execution.answered rows columns).rowsDoc = textTable rows := by
  simp [Execution.rowsDoc, textTable, tableDoc, Function.comp_def]

theorem sameRows_answered {rows rows' : List (List Text)} {columns columns' : List Text} :
    (Execution.answered rows columns).sameRows (.answered rows' columns') = true ↔ rows = rows' :=
  beq_iff_eq

theorem sameItems_texts {a b : List Text} :
    Doc.sameItems (a.map .text) (b.map .text) = true ↔ a = b := by
  have htext (s t : Text) : (Doc.text s).same (.text t) = true ↔ s = t := beq_iff_eq
  rw [Doc.sameItems_iff, List.forall₂_map_left_iff, List.forall₂_map_right_iff]
  simp only [htext, List.forall₂_eq_eq_eq]

theorem rowIn_texts {row : List Text} {rows : List (List Text)} :
    rowIn (row.map .text) (rows.map fun r => r.map .text) = true ↔ row ∈ rows := by
  simp [rowIn, sameItems_texts]

/-- The strict comparison of two answers holds if they have the same set of rows. -/
theorem strict_answered (expected got : List (List Text)) :
    ∃ holds, strict (textTable expected) (textTable got) = .ok holds ∧
      (holds = true ↔ ∀ row, row ∈ expected ↔ row ∈ got) := by
  have hgold := keyRows_answered expected []
  have hgot := keyRows_answered got []
  rw [rowsDoc_answered] at hgold hgot
  rw [strict, hgold, ok_bind, hgot, ok_bind]
  refine ⟨_, rfl, ?_⟩
  simp only [Bool.and_eq_true, List.all_eq_true, List.forall_mem_map, rowIn_texts]
  exact ⟨fun h row => ⟨h.1 row, h.2 row⟩, fun h => ⟨fun row => (h row).1, fun row => (h row).2⟩⟩

/-! ## Grades -/

theorem graded_of_grade {expected got : List (List Text)} {columns columns' : List Text}
    {quality : Match} {reason : Option Text}
    (h : grade (.answered expected columns) (.answered got columns') = .ok (quality, reason)) :
    Graded expected got quality := by
  rw [grade] at h
  by_cases heq : expected = got
  · rw [if_pos (sameRows_answered.2 heq)] at h
    cases h
    exact .exact heq
  · rw [if_neg (fun hsame => heq (sameRows_answered.1 hsame)), rowsDoc_answered, rowsDoc_answered] at h
    -- the column map can stop the grading and gives a reason, but never the grade
    obtain ⟨_, _, h⟩ := ok_of_bind h
    obtain ⟨holds, hstrict, hset⟩ := strict_answered expected got
    rw [hstrict, ok_bind] at h
    by_cases hholds : holds = true
    · rw [if_pos hholds] at h
      cases h
      exact .strict heq (hset.1 hholds)
    · rw [if_neg hholds] at h
      rw [hset] at hholds
      obtain ⟨⟨lenient, text⟩, hlenient, h⟩ := ok_of_bind h
      cases lenient with
      | true =>
        cases h
        exact .superSoft heq hholds ⟨text, hlenient⟩
      | false =>
        cases h
        exact .wrong heq hholds ⟨text, hlenient⟩

/-- An expected answer without rows is matched leniently by any rows. -/
theorem grade_empty {got : List (List Text)} (hgot : got ≠ []) (columns columns' : List Text) :
    grade (.answered [] columns) (.answered got columns') =
      .ok (.superSoft, some (lenientReason (.answered [] columns) (.answered got columns'))) := by
  obtain ⟨holds, hstrict, hset⟩ := strict_answered [] got
  have hholds : ¬ holds = true := by
    obtain ⟨row, hrow⟩ := List.exists_mem_of_ne_nil got hgot
    intro h
    exact absurd ((hset.1 h row).2 hrow) List.not_mem_nil
  rw [grade, if_neg (fun hsame => hgot (sameRows_answered.1 hsame).symm), rowsDoc_answered,
    rowsDoc_answered]
  -- the column map refuses the rows, and the lenient comparison, which is asked next, takes them
  have hsoft : soft (textTable []) (textTable got) = .ok ⟨false, "Empty Result Not Match"⟩ := by
    rw [soft, textTable, size_tableDoc, ok_bind, textTable, size_tableDoc, ok_bind]
    rfl
  have hsuper : Compare.superSoft (textTable []) (textTable got) = .ok ⟨true, "Empty Result Match"⟩ := by
    rw [Compare.superSoft, textTable, size_tableDoc, ok_bind, textTable, size_tableDoc, ok_bind]
    rfl
  dsimp only
  rw [hsoft, ok_bind, hstrict, ok_bind, if_neg hholds, hsuper, ok_bind]
  rfl

/-! ## Evaluations -/

theorem answers_iff {db : Database} {sql : Text} :
    db.Answers sql ↔ ∃ table, db.AnswersWith sql table := by
  simp only [Database.Answers, Database.AnswersWith, exists_and_left]

section
variable {db : Database} {sql : Text}

theorem executed_of_answers {table : Table} (h : db.AnswersWith sql table) :
    executed db (.text sql) = .answered table.normalized table.columnNames := by
  simp only [executed, h.1, h.2]

/-- A query that is not answered leaves an error that is not empty. -/
theorem executed_of_not_answers (hconnect : db.connectError ≠ some []) (h : ¬ db.Answers sql) :
    ∃ error, executed db (.text sql) = .failed error ∧ error.isEmpty = false := by
  unfold executed
  cases hc : db.connectError with
  | some message =>
    refine ⟨message, rfl, ?_⟩
    rw [hc] at hconnect
    simpa using hconnect
  | none =>
    cases hq : db.query (.text sql) with
    | ok table => exact absurd ⟨hc, table, hq⟩ h
    | error fault => exact ⟨_, rfl, rfl⟩

end

/-- What an evaluation says of the predicted query and of the match. -/
def Reports (e : Evaluation) (status quality : Text) : Prop :=
  e.toDoc.field "execution_status" = .ok (.text status) ∧
    e.toDoc.field "match_type" = .ok (.text quality)

section
variable {db : Database} {question : Question} {gold predicted : Text}
  (hgold : question.gold = .text gold) (hpredicted : question.predicted = .text predicted)

section
include hpredicted

theorem evaluated_unanswered (hconnect : db.connectError ≠ some []) (h : ¬ db.Answers predicted) :
    ∃ e, evaluated db question = .ok e ∧ Reports e "SQL_ERROR" "NONE" := by
  obtain ⟨error, hfailed, hempty⟩ := executed_of_not_answers hconnect h
  have he : evaluated db question = .ok
      { question, sqlError := true, quality := .none, predicted := .failed error,
        reason := some ("SQL Execution Failed: " ++ error), gold := executed db question.gold } := by
    simp [evaluated, hpredicted, hfailed, Execution.error?, hempty]
  exact ⟨_, he, rfl, rfl⟩

theorem evaluated_answered {table : Table} (h : db.AnswersWith predicted table) :
    evaluated db question = gradedBy question (executed db question.gold)
      (.answered table.normalized table.columnNames) := by
  simp only [evaluated, hpredicted, executed_of_answers h, Execution.error?]

end

include hgold hpredicted

theorem evaluated_graded {table table' : Table} (h : db.AnswersWith gold table)
    (h' : db.AnswersWith predicted table') :
    ∃ e, evaluated db question = .ok e ∧ ∃ quality : Match,
      Graded table.normalized table'.normalized quality ∧ Reports e "SUCCESS" quality.label := by
  have heven := even_of_query h.1 h.2
  have heven' := even_of_query h'.1 h'.2
  rw [executed_of_answers h] at heven
  rw [executed_of_answers h'] at heven'
  obtain ⟨⟨quality, reason⟩, hgrade⟩ := grade_answered heven heven'
  rw [evaluated_answered hpredicted h', hgold, executed_of_answers h, gradedBy, hgrade]
  exact ⟨_, rfl, quality, graded_of_grade hgrade, rfl, rfl⟩

theorem evaluated_stops (hconnect : db.connectError ≠ some []) (h : ¬ db.Answers gold)
    {table : Table} (h' : db.AnswersWith predicted table) :
    evaluated db question = .error (.noLength .null) := by
  obtain ⟨error, hfailed, -⟩ := executed_of_not_answers hconnect h
  rw [evaluated_answered hpredicted h', hgold, hfailed]
  -- the error of the expected query is not looked at, and its missing rows have no length
  rfl

end

/-- An evaluation stops with a fault exactly if the expected query fails and the predicted one is
answered. Otherwise it reports an error exactly if the predicted query failed, and else the match of
the two answers. -/
theorem evaluate_reports {db : Database} (hconnect : db.connectError ≠ some []) {question : Question}
    {gold predicted : Text} (hgold : question.gold = .text gold)
    (hpredicted : question.predicted = .text predicted) (console : Text) :
    ((∃ fault console', runIn (evaluate db question) console = (.error fault, console')) ↔
      ¬ db.Answers gold ∧ db.Answers predicted) ∧
    (¬ db.Answers predicted → ∃ e console',
      runIn (evaluate db question) console = (.ok e, console') ∧ Reports e "SQL_ERROR" "NONE") ∧
    ∀ table table', db.AnswersWith gold table → db.AnswersWith predicted table' → ∃ e console',
      runIn (evaluate db question) console = (.ok e, console') ∧
        ∃ quality : Match, Graded table.normalized table'.normalized quality ∧
          Reports e "SUCCESS" quality.label := by
  obtain ⟨console', hrun⟩ := (yields_evaluate db question).run console
  rw [hrun]
  refine ⟨⟨?_, ?_⟩, ?_, ?_⟩
  · rintro ⟨fault, _, hfault⟩
    have hfault := (Prod.mk.inj hfault).1
    by_cases hanswers : db.Answers predicted
    · refine ⟨fun h => ?_, hanswers⟩
      obtain ⟨table, h⟩ := answers_iff.1 h
      obtain ⟨table', h'⟩ := answers_iff.1 hanswers
      obtain ⟨e, he, -⟩ := evaluated_graded hgold hpredicted h h'
      rw [he] at hfault
      cases hfault
    · obtain ⟨e, he, -⟩ := evaluated_unanswered hpredicted hconnect hanswers
      rw [he] at hfault
      cases hfault
  · rintro ⟨hfails, hanswers⟩
    obtain ⟨table', h'⟩ := answers_iff.1 hanswers
    exact ⟨_, console', by rw [evaluated_stops hgold hpredicted hconnect hfails h']⟩
  · intro hfails
    obtain ⟨e, he, hreports⟩ := evaluated_unanswered hpredicted hconnect hfails
    exact ⟨e, console', by rw [he], hreports⟩
  · intro table table' h h'
    obtain ⟨e, he, hquality⟩ := evaluated_graded hgold hpredicted h h'
    exact ⟨e, console', by rw [he], hquality⟩

theorem evaluate_reports_each :
    (∃ fault console, runIn (evaluate twoAnswers
        ⟨.null, .null, .text "none", .text "predicted", .null⟩) [] = (.error fault, console)) ∧
    (∃ e console, runIn (evaluate twoAnswers
        ⟨.null, .null, .text "none", .text "none", .null⟩) [] = (.ok e, console) ∧
      Reports e "SQL_ERROR" "NONE") ∧
    ∃ e console, runIn (evaluate twoAnswers
        ⟨.null, .null, .text "gold", .text "predicted", .null⟩) [] = (.ok e, console) ∧
      ∃ quality : Match, Graded [["x"], ["y"]] [["u", "x"], ["v", "y"]] quality ∧
        Reports e "SUCCESS" quality.label := by
  have hconnect : twoAnswers.connectError ≠ some [] := by
    intro h
    cases h
  have hgold : twoAnswers.AnswersWith "gold" ⟨["a"], [[.text "x"], [.text "y"]]⟩ := ⟨rfl, rfl⟩
  have hpredicted : twoAnswers.AnswersWith "predicted"
      ⟨["b", "a"], [[.text "u", .text "x"], [.text "v", .text "y"]]⟩ := ⟨rfl, rfl⟩
  have hnone : ¬ twoAnswers.Answers "none" := by
    rintro ⟨-, table, h⟩
    cases h
  refine ⟨?_, ?_, ?_⟩
  · exact (evaluate_reports hconnect rfl rfl []).1.2 ⟨hnone, answers_iff.2 ⟨_, hpredicted⟩⟩
  · exact (evaluate_reports hconnect rfl rfl []).2.1 hnone
  · exact (evaluate_reports hconnect rfl rfl []).2.2 _ _ hgold hpredicted

/-! ## Expected answers without rows -/

theorem lenientReason_empty {got : List (List Text)} (hgot : got ≠ []) (columns columns' : List Text) :
    lenientReason (.answered [] columns) (.answered got columns') =
      "Logic Correct (Smart Map): Extra Rows" ++
        (if columns.length < columns'.length then ", Extra Columns" else "") := by
  have hrows : (Execution.answered [] columns).rowCount < (Execution.answered got columns').rowCount :=
    List.length_pos_iff.2 hgot
  unfold lenientReason
  dsimp only
  rw [if_pos hrows]
  by_cases h : columns.length < columns'.length
  · have hcolumns : (Execution.answered [] columns).columns.length <
        (Execution.answered got columns').columns.length := h
    rw [if_pos hcolumns, if_pos h]
    decide +kernel
  · have hcolumns : ¬ (Execution.answered [] columns).columns.length <
        (Execution.answered got columns').columns.length := h
    rw [if_neg hcolumns, if_neg h]
    decide +kernel

/-- An expected answer without rows is matched exactly by another one without rows, and by any answer
with rows as a lenient match that counts these as extra. -/
theorem empty_gold_matched {db : Database} {question : Question} {gold predicted : Text}
    (hgold : question.gold = .text gold) (hpredicted : question.predicted = .text predicted)
    {table table' : Table} (h : db.AnswersWith gold table) (h' : db.AnswersWith predicted table')
    (hempty : table.normalized = []) (console : Text) :
    ∃ e console', runIn (evaluate db question) console = (.ok e, console') ∧
      (table'.normalized = [] → Reports e "SUCCESS" "EXACT_MATCH") ∧
      (table'.normalized ≠ [] → Reports e "SUCCESS" "SUPER_SOFT_MATCH" ∧
        e.toDoc.field "failure_reason" = .ok (.text ("Logic Correct (Smart Map): Extra Rows" ++
          (if table.columns.length < table'.columns.length then ", Extra Columns" else "")))) := by
  obtain ⟨console', hrun⟩ := (yields_evaluate db question).run console
  rw [hrun]
  by_cases hrows : table'.normalized = []
  · obtain ⟨e, he, quality, hquality, hreports⟩ := evaluated_graded hgold hpredicted h h'
    have heq : table.normalized = table'.normalized := hempty.trans hrows.symm
    refine ⟨e, console', by rw [he], fun _ => ?_, fun hne => absurd hrows hne⟩
    cases hquality with
    | exact _ => exact hreports
    | strict hne _ => exact absurd heq hne
    | superSoft hne _ _ => exact absurd heq hne
    | wrong hne _ _ => exact absurd heq hne
  · have hgrade := grade_empty hrows table.columnNames table'.columnNames
    have he := evaluated_answered hpredicted h'
    rw [hgold, executed_of_answers h, hempty, gradedBy, hgrade, lenientReason_empty hrows] at he
    refine ⟨_, console', by rw [he]; rfl, fun hnone => absurd hnone hrows, fun _ => ⟨⟨rfl, rfl⟩, ?_⟩⟩
    simp only [Table.columnNames, List.length_map]
    rfl

/-- A database with an answer without rows and one with a row. -/
def emptyAndOne : Database where
  connectError := none
  replies := [("gold", .table ⟨["v"], []⟩),
    ("predicted", .table ⟨["v", "w"], [[.int 1, .text "x"]]⟩)]

/-- The question that compares its two answers. -/
def emptyQuestion : Question :=
  ⟨.int 1, .text "q", .text "gold", .text "predicted", .null⟩

theorem empty_gold_matched_wider :
    ∃ e console, runIn (evaluate emptyAndOne emptyQuestion) [] = (.ok e, console) ∧
      Reports e "SUCCESS" "SUPER_SOFT_MATCH" ∧ e.toDoc.field "failure_reason" =
        .ok (.text "Logic Correct (Smart Map): Extra Rows, Extra Columns") := by
  have hgold : emptyQuestion.gold = .text "gold" := rfl
  have hpredicted : emptyQuestion.predicted = .text "predicted" := rfl
  have h : emptyAndOne.AnswersWith "gold" ⟨["v"], []⟩ := ⟨rfl, rfl⟩
  have h' : emptyAndOne.AnswersWith "predicted" ⟨["v", "w"], [[.int 1, .text "x"]]⟩ := ⟨rfl, rfl⟩
  obtain ⟨e, console, hrun, -, hrows⟩ := empty_gold_matched hgold hpredicted h h' rfl []
  exact ⟨e, console, hrun, hrows (by decide)⟩

/-- A row is a success where no rows are expected. -/
theorem row_matches_no_rows :
    ∃ table table', emptyAndOne.AnswersWith "gold" table ∧
      emptyAndOne.AnswersWith "predicted" table' ∧ table.normalized = [] ∧ table'.normalized ≠ [] ∧
      ∃ e console, runIn (evaluate emptyAndOne emptyQuestion) [] = (.ok e, console) ∧
        ∃ label ∈ Match.successes, e.toDoc.field "match_type" = .ok (.text label) := by
  refine ⟨⟨["v"], []⟩, ⟨["v", "w"], [[.int 1, .text "x"]]⟩, ⟨rfl, rfl⟩, ⟨rfl, rfl⟩, rfl, by decide, ?_⟩
  obtain ⟨console, hrun⟩ := (yields_evaluate emptyAndOne emptyQuestion).run []
  exact ⟨_, console, hrun, Match.superSoft.label, by decide, rfl⟩

end QueryBench
