import QueryBench.Proofs.Baseline.Findings
import QueryBench.Proofs.Dataset.Rows
import QueryBench.Proofs.Json.Checked
import QueryBench.Proofs.Run.Fresh
import QueryBench.Proofs.Run.Workspace

/-!
# Runs of comparisons

What a comparison that ended well has read, what it found, and what stands in its report. Both methods
ask about the same rows of the given data, but they look up predictions differently, count them
differently, and write different summaries.

Main definitions: `Baseline.financial`, the rows asked about, and `Baseline.Evaluates`, which says of a
run what it has compared. Main statements: `Keyed.run_ok`, `Positional.run_ok`, and
`each_question_counted_once`.
-/
set_option autoImplicit false

namespace QueryBench.Baseline

/-! ## The rows asked about -/

/-- The data of the first file, followed by that of the second file if it is there. -/
inductive Given (files : Files) : CommandLine.Value → CommandLine.Value → Dataset → Prop where
  | one {data more : Text} {first : Dataset} (hfirst : readDataset files data = .ok first)
      (hmore : files.exist more = false) : Given files (some data) (some more) first
  | both {data more : Text} {first second : Dataset} (hfirst : readDataset files data = .ok first)
      (hsecond : readDataset files more = .ok second) :
      Given files (some data) (some more) (first.append second)

/-- The rows of the test set that ask the financial database. -/
def financial (d : Dataset) : List Row :=
  d.rows.filter fun row => (row.cell? "db_id").any (·.isText "financial")

section
variable {files : Files} {data more : CommandLine.Value} {all : Dataset}

theorem level_readDataset {path : Text} {d : Dataset} (h : readDataset files path = .ok d) :
    d.Level := by
  obtain ⟨text, -, h⟩ := ok_of_bind h
  obtain ⟨doc, -, h⟩ := ok_of_bind h
  exact Dataset.level_read h

theorem Given.level (h : Given files data more all) : all.Level := by
  cases h with
  | one hfirst _ => exact level_readDataset hfirst
  | both hfirst hsecond => exact (level_readDataset hfirst).append (level_readDataset hsecond)

theorem rows_financialRows {d chosen : Dataset} (hd : d.Level) (h : financialRows d = .ok chosen) :
    chosen.Level ∧ chosen.rows = financial d := by
  obtain ⟨ids, hids, h⟩ := ok_of_bind h
  cases h
  have hlength : ids.cells.length = d.size := hd.lookup (Dataset.column_eq_ok hids)
  exact ⟨hd.filterBy hlength _, Dataset.rows_filterBy hd hids _⟩

theorem pathOf_eq_ok {use : PathUse} {value : CommandLine.Value} {path : Text}
    (h : CommandLine.pathOf use value = .ok path) : value = some path := by
  cases value with
  | none => cases h
  | some p =>
    cases h
    rfl

end

/-! ## What a run has compared -/

/-- How the predictions of a method are judged, counted and reported. -/
structure Method where
  judged : Database → Doc → Row → Nat → Option Evaluation → Doc → Prop
  log : Doc → Doc
  heading : Option Evaluation → Heading
  style : Json.Style
  summary : Score → List (Text × Doc)

/-- The data and the predictions of a run, its score, and what it found about each question with the
place of that in the report. -/
structure Comparison where
  all : Dataset
  predictions : Doc
  score : Score
  found : List (Option Evaluation × Doc)

/-- The details of the findings, in the order of the rows. -/
def Comparison.details (c : Comparison) : List Doc :=
  c.found.map Prod.snd

/-- Are these the predictions in the file that the settings name? -/
def Settings.Predicts (settings : Settings) (files : Files) (predictions : Doc) : Prop :=
  ∃ path text, settings.predictions = some path ∧ files.read path = .ok text ∧
    Json.read text = .ok predictions

/-- The report in the file that the settings name. -/
def Method.Reports (m : Method) (settings : Settings) (files : Files) (score : Score)
    (details : List Doc) : Prop :=
  ∃ output, settings.output = some output ∧
    files.text? output = some (Json.write m.style (reportDoc (m.summary score) details))

/-- From `w` to `after` a run has made this comparison: for each row asked about, in their order, there
is one finding, all of them are counted, and the report is written. -/
structure Evaluates (m : Method) (world : World) (settings : Settings) (w after : Workspace)
    (c : Comparison) : Prop where
  given : Given w.files settings.data settings.moreData c.all
  predicted : settings.Predicts w.files c.predictions
  found : List.Forall₂ (fun p f => m.judged world.database c.predictions p.1 p.2 f.1 f.2)
    (financial c.all).zipIdx c.found
  counts : c.score.Counts (c.found.map fun f => m.heading f.1)
  reported : m.Reports settings after.files c.score c.details

theorem Evaluates.length {m : Method} {world : World} {settings : Settings} {w after : Workspace}
    {c : Comparison} (h : Evaluates m world settings w after c) :
    c.score.total = (financial c.all).length ∧ c.score.total = c.details.length := by
  have hfound : c.found.length = (financial c.all).length := by
    rw [← h.found.length_eq, List.length_zipIdx]
  have htotal : c.score.total = c.found.length := by
    rw [h.counts.total, List.length_map]
  exact ⟨htotal.trans hfound, htotal.trans (List.length_map _).symm⟩

/-! ## The end of a run -/

section
variable {w after : Workspace}

theorem said_ok {lines : List Text} {u : Unit}
    (h : runIn (lines.forM fun line => (say line).work : Working Unit) w = (.ok u, after)) :
    after.files = w.files := by
  induction lines generalizing w with
  | nil =>
    cases h
    rfl
  | cons line rest ih =>
    rw [List.forM_eq_forM, List.forM_cons] at h
    obtain ⟨_, w₁, hsay, hrest⟩ := run_bind_ok h
    rw [ih hrest, (work_ok (Yields.say _) hsay).2]

theorem written_ok {output : Text} {style : Json.Style} {doc : Doc} {lines : List Text}
    (h : runIn (do
      writePieces output (Json.pieces style doc)
      lines.forM fun line => (say line).work) w = (.ok (), after)) :
    after.files.text? output = some (Json.write style doc) := by
  obtain ⟨_, w₁, hwrite, hsaid⟩ := run_bind_ok h
  obtain ⟨place, texts, htarget, hpieces, hwhole, hput⟩ :=
    Files.writePieces_eq_ok (writePieces_ok hwrite)
  have hflatten : texts.flatten = Json.write style doc :=
    (Json.pieced style doc 0 [] texts hpieces).2
  rw [said_ok hsaid, hput, Files.text?_put_self hwhole htarget, hflatten]

theorem ensured_ok {α : Type} {act : Traced α} {P : α → Prop} {a : α} (hsettled : Settled act)
    (hact : Ensures act P) (h : runIn act.work w = (.ok a, after)) : P a ∧ after.files = w.files := by
  obtain ⟨r, hr⟩ := hsettled
  obtain ⟨rfl, hfiles⟩ := work_ok hr h
  obtain ⟨console, hrun⟩ := hr.run default
  exact ⟨hact _ _ _ hrun, hfiles⟩

end

/-! ## Predictions by question id -/

namespace Keyed

/-- The id of a row, which is its position if it has none of its own. -/
def idOf (row : Row) (position : Nat) : Text :=
  match row.cell? "question_id" with
  | some d => d.display
  | none => toString position

/-- The baseline that looks predictions up by the id of the question. -/
def method : Method where
  judged db predictions row position := Judged db predictions (idOf row position) row
  log := id
  heading := headingOf
  style := ⟨some 4, false⟩
  summary score :=
    let accuracy : List (Text × Doc) := [("accuracy", .real score.accuracy)]
    score.fields "missing" ++ accuracy

/-- What is asked about a row: only its id is made a text. -/
structure Asks (row : Row) (position : Nat) (question : Row) : Prop where
  id : shownId question = idOf row position
  others : ∀ name : Text, name ≠ "question_id" → question.cell? name = row.cell? name

theorem Judged.of_asks {db : Database} {predictions : Doc} {row question : Row} {position : Nat}
    {finding : Option Evaluation} {detail : Doc} (h : Asks row position question)
    (hjudged : Judged db predictions (shownId question) question finding detail) :
    Judged db predictions (idOf row position) row finding detail := by
  have hsql : cell question "SQL" = cell row "SQL" := by
    rw [cell, cell, h.others "SQL" (by decide)]
  rw [h.id] at hjudged
  cases hjudged with
  | missing hmember => exact .missing hmember
  | evaluated hmember hraw hgold he =>
    rw [h.others "question" (by decide)] at he
    exact .evaluated hmember hraw (hsql ▸ hgold) he

/-- The ids of all rows as texts, by which predictions are looked up. -/
def idsOf (d : Dataset) : List Text :=
  match d.column? "question_id" with
  | some column => column.cells.map Doc.display
  | none => (List.range d.size).map fun (i : Nat) => toString i

theorem asks_rows {d : Dataset} (hd : d.Level) :
    List.Forall₂ (fun p question => Asks p.1 p.2 question) d.rows.zipIdx
      (d.setTexts "question_id" (idsOf d)).rows := by
  rw [Dataset.zipIdx_rows, Dataset.rows_eq, List.forall₂_map_left_iff, List.forall₂_map_right_iff]
  refine List.forall₂_same.2 fun i hi => ?_
  have hi : i < d.size := List.mem_range.1 hi
  have hid : ((idsOf d)[i]?) = some (idOf (d.rowAt i) i) := by
    rw [idsOf, idOf, Dataset.cell?_rowAt]
    cases hcolumn : d.column? "question_id" with
    | none => simp [hi]
    | some column =>
      have hlength : i < column.cells.length := (hd.lookup hcolumn).symm ▸ hi
      simp [hlength]
  refine ⟨?_, fun name hne => ?_⟩
  · rw [shownId, Dataset.cell?_rowAt, Dataset.column?_setTexts]
    show (((idsOf d).map Doc.text)[i]?.getD .null).display = _
    rw [List.getElem?_map, hid]
    rfl
  · rw [Dataset.cell?_rowAt, Dataset.cell?_rowAt, Dataset.column?_setTexts_of_ne d hne]

theorem isEmpty_setTexts {d : Dataset} {texts : List Text} :
    (d.setTexts "question_id" texts).isEmpty = true ↔ d.rows = [] := by
  have hcolumns : (d.setTexts "question_id" texts).columns ≠ [] := by
    intro hnil
    have hcolumn := Dataset.column?_setTexts d "question_id" texts
    rw [Dataset.column?, hnil] at hcolumn
    cases hcolumn
  rw [← List.length_eq_zero_iff, Dataset.length_rows, Dataset.isEmpty,
    List.isEmpty_eq_false_iff.2 hcolumns, Bool.or_false, decide_eq_true_iff]
  rfl

/-- The questions to expect: none if the file of the data is not there, and otherwise those about its
rows. -/
inductive Expected (files : Files) (data more : CommandLine.Value) : Dataset → Prop where
  | absent {path : Text} (hpath : data = some path) (hexist : files.exist path = false) :
      Expected files data more .empty
  | asked {all questions : Dataset} (hgiven : Given files data more all)
      (hempty : questions.isEmpty = true ↔ financial all = [])
      (hasks : List.Forall₂ (fun p question => Asks p.1 p.2 question) (financial all).zipIdx
        questions.rows) : Expected files data more questions

theorem ensures_expected (files : Files) (data more : CommandLine.Value) :
    Ensures (expected files data more) (Expected files data more) := by
  have hchosen {all : Dataset} (hall : Given files data more all) : Ensures (do
      let chosen ← liftM (financialRows all)
      return chosen.setTexts "question_id" (idsOf chosen) : Traced Dataset)
      (Expected files data more) := by
    refine (Ensures.lift fun chosen hchosen => hchosen).bind fun chosen hchosen => .pure ?_
    obtain ⟨hlevel, hrows⟩ := rows_financialRows hall.level hchosen
    refine .asked hall ?_ ?_
    · rw [← hrows]
      exact isEmpty_setTexts
    · rw [← hrows]
      exact asks_rows hlevel
  refine (Ensures.lift fun path hpath => pathOf_eq_ok hpath).bind fun path hpath => ?_
  cases hexist : files.exist path with
  | false =>
    exact (Ensures.true _).bind fun _ _ => .pure (.absent hpath hexist)
  | true =>
    refine (Ensures.lift fun first hfirst => hfirst).bind fun first hfirst =>
      (Ensures.lift fun path' hpath' => pathOf_eq_ok hpath').bind fun path' hpath' => ?_
    subst hpath hpath'
    cases hmore : files.exist path' with
    | false => exact hchosen (.one hfirst hmore)
    | true =>
      have hboth : Ensures (first.append <$> liftM (readDataset files path') : Traced Dataset)
          (Given files (some path) (some path')) := by
        rw [← bind_pure_comp]
        exact (Ensures.lift fun second hsecond => hsecond).bind fun second hsecond =>
          .pure (.both hfirst hsecond)
      exact hboth.bind fun all hall => hchosen hall

theorem settled_expected (files : Files) (data more : CommandLine.Value) :
    Settled (expected files data more) := by
  refine (Settled.lift _).bind fun path => ?_
  cases files.exist path with
  | false => exact (Settled.say _).bind fun _ => .pure _
  | true =>
    refine (Settled.lift _).bind fun first => (Settled.lift _).bind fun path' => ?_
    cases files.exist path' with
    | false => exact (Settled.pure _).bind fun _ => (Settled.lift _).bind fun _ => .pure _
    | true =>
      have hboth : Settled (first.append <$> liftM (readDataset files path') : Traced Dataset) := by
        rw [← bind_pure_comp]
        exact (Settled.lift _).bind fun _ => .pure _
      exact hboth.bind fun _ => (Settled.lift _).bind fun _ => .pure _

section
variable {world : World} {settings : Settings} {w after : Workspace}

theorem report_ok {questions : Dataset}
    (h : runIn (report world settings questions) w = (.ok (), after)) :
    ∃ predictions found score, settings.Predicts w.files predictions ∧
      List.Forall₂ (fun row f => Judged world.database predictions (shownId row) row f.1 f.2)
        questions.rows found ∧
      score.Counts (found.map fun f => headingOf f.1) ∧
      method.Reports settings after.files score (found.map Prod.snd) := by
  obtain ⟨_, w₁, hsay, hlooking⟩ := run_bind_ok h
  have hfiles₁ := (work_ok (Yields.say _) hsay).2
  obtain ⟨files, w₂, hfiles, hnaming⟩ := run_bind_ok hlooking
  obtain ⟨rfl, rfl⟩ := currentFiles_ok hfiles
  obtain ⟨path, w₃, hpath', hreading⟩ := run_bind_ok hnaming
  obtain ⟨hpath, rfl⟩ := lift_ok hpath'
  obtain ⟨text, w₄, htext', hparsing⟩ := run_bind_ok hreading
  obtain ⟨htext, rfl⟩ := lift_ok htext'
  obtain ⟨predictions, w₅, hread', hlocating⟩ := run_bind_ok hparsing
  obtain ⟨hread, rfl⟩ := lift_ok hread'
  obtain ⟨_, w₆, -, hstarting⟩ := run_bind_ok hlocating
  obtain ⟨_, w₇, -, hjudging⟩ := run_bind_ok hstarting
  obtain ⟨⟨score, details⟩, w₈, hjudge, hreporting⟩ := run_bind_ok hjudging
  obtain ⟨⟨found, hfound, rfl, rfl⟩, -⟩ :=
    ensured_ok (settled_judgeAll _ _ _ _) (ensures_judgeAll _ _ _ _) hjudge
  obtain ⟨output, w₉, houtput', hwriting⟩ := run_bind_ok hreporting
  obtain ⟨houtput, rfl⟩ := lift_ok houtput'
  refine ⟨predictions, found, _, ⟨path, text, pathOf_eq_ok hpath, hfiles₁ ▸ htext, hread⟩, hfound,
    Score.Counts.empty.foldl _, output, pathOf_eq_ok houtput, ?_⟩
  dsimp only at hwriting
  split at hwriting
  · obtain ⟨_, w₁₀, -, hwriting⟩ := run_bind_ok hwriting
    exact written_ok hwriting
  · exact written_ok hwriting

/-- A run had no data, or no row to ask about, and left the files as they were. -/
def Idle (settings : Settings) (w after : Workspace) : Prop :=
  after.files = w.files ∧
    ((∃ path, settings.data = some path ∧ w.files.exist path = false) ∨
      ∃ all, Given w.files settings.data settings.moreData all ∧ financial all = [])

theorem run_ok (h : runIn (run world settings) w = (.ok (), after)) :
    Idle settings w after ∨ ∃ c, Evaluates method world settings w after c := by
  obtain ⟨_, w₁, hsay, hlooking⟩ := run_bind_ok h
  have hfiles₁ := (work_ok (Yields.say _) hsay).2
  obtain ⟨files, w₂, hfiles, hasking⟩ := run_bind_ok hlooking
  obtain ⟨rfl, rfl⟩ := currentFiles_ok hfiles
  obtain ⟨questions, w₃, hexpected, hreporting⟩ := run_bind_ok hasking
  obtain ⟨hquestions, hfiles₃⟩ :=
    ensured_ok (settled_expected _ _ _) (ensures_expected _ _ _) hexpected
  rw [hfiles₁] at hquestions hfiles₃
  split at hreporting
  · rename_i hempty
    refine .inl ⟨(work_ok (Yields.say _) hreporting).2.trans hfiles₃, ?_⟩
    cases hquestions with
    | absent hpath hexist => exact .inl ⟨_, hpath, hexist⟩
    | asked hgiven hnone _ => exact .inr ⟨_, hgiven, hnone.1 hempty⟩
  · rename_i hempty
    cases hquestions with
    | absent => exact absurd rfl hempty
    | asked hgiven _ hasks =>
      obtain ⟨predictions, found, score, hpredicted, hfound, hcounts, hreported⟩ :=
        report_ok hreporting
      rw [hfiles₃] at hpredicted
      refine .inr ⟨⟨_, predictions, score, found⟩, hgiven, hpredicted, ?_, hcounts, hreported⟩
      exact forall₂_trans (fun _ _ _ hask hjudged => hjudged.of_asks hask) hasks hfound

end

end Keyed

/-! ## Predictions by position -/

namespace Positional

/-- The baseline that looks predictions up by the position of the row. -/
def method : Method where
  judged := Judged
  log detail := (detail.field "eval_result").toOption.getD .null
  heading := headingOf
  style := ⟨some 4, true⟩
  summary score := score.fields "missing_prediction"

theorem expected?_eq_some {files : Files} {data more : CommandLine.Value} {questions : Dataset}
    (h : expected? files data more = .ok (some questions)) :
    ∃ all, Given files data more all ∧ questions.rows = financial all := by
  obtain ⟨path, hpath, hfirst⟩ := ok_of_bind h
  cases hexist : files.exist path with
  | false =>
    rw [hexist] at hfirst
    cases hfirst
  | true =>
    rw [hexist] at hfirst
    obtain ⟨path', hpath', hsecond⟩ := ok_of_bind hfirst
    cases hexist' : files.exist path' with
    | false =>
      rw [hexist'] at hsecond
      cases hsecond
    | true =>
      rw [hexist'] at hsecond
      obtain ⟨first, hfirst, hreading⟩ := ok_of_bind hsecond
      obtain ⟨second, hsecond, hchoosing⟩ := ok_of_bind hreading
      obtain ⟨chosen, hchosen, hquestions⟩ := ok_of_bind hchoosing
      cases hquestions
      have hgiven : Given files (some path) (some path') (first.append second) := .both hfirst hsecond
      rw [pathOf_eq_ok hpath, pathOf_eq_ok hpath']
      exact ⟨_, hgiven, (rows_financialRows hgiven.level hchosen).2⟩

section
variable {world : World} {settings : Settings} {w after : Workspace}

theorem report_ok {predictions : Doc} {questions : Option Dataset}
    (h : runIn (report world settings predictions questions) w = (.ok (), after)) :
    ∃ asked found score, questions = some asked ∧
      List.Forall₂ (fun p f => Judged world.database predictions p.1 p.2 f.1 f.2) asked.rows.zipIdx
        found ∧
      score.Counts (found.map fun f => headingOf f.1) ∧
      method.Reports settings after.files score (found.map Prod.snd) := by
  obtain ⟨_, w₁, -, hsizing⟩ := run_bind_ok h
  obtain ⟨answered, w₂, -, hsaying⟩ := run_bind_ok hsizing
  obtain ⟨_, w₃, -, hlocating⟩ := run_bind_ok hsaying
  obtain ⟨_, w₄, -, hasking⟩ := run_bind_ok hlocating
  cases questions with
  | none => cases hasking
  | some asked =>
    obtain ⟨rows, w₅, hrows, hjudging⟩ := run_bind_ok hasking
    cases hrows
    obtain ⟨⟨score, details⟩, w₆, hjudge, hreporting⟩ := run_bind_ok hjudging
    obtain ⟨⟨found, hfound, rfl, rfl⟩, -⟩ :=
      ensured_ok (settled_judgeAll _ _ _ _ _) (ensures_judgeAll _ _ _ _ _) hjudge
    obtain ⟨output, w₇, houtput', hmaking⟩ := run_bind_ok hreporting
    obtain ⟨houtput, rfl⟩ := lift_ok houtput'
    obtain ⟨_, w₈, -, hwriting⟩ := run_bind_ok hmaking
    exact ⟨asked, found, _, rfl, hfound, Score.Counts.empty.foldl _, output, pathOf_eq_ok houtput,
      written_ok hwriting⟩

/-- A run had no predictions and left the files as they were. -/
def Idle (settings : Settings) (w after : Workspace) : Prop :=
  after.files = w.files ∧ ∃ path, settings.predictions = some path ∧ w.files.exist path = false

theorem run_ok (h : runIn (run world settings) w = (.ok (), after)) :
    Idle settings w after ∨ ∃ c, Evaluates method world settings w after c := by
  obtain ⟨files, w₁, hfiles, hnaming⟩ := run_bind_ok h
  obtain ⟨rfl, rfl⟩ := currentFiles_ok hfiles
  obtain ⟨path, w₂, hpath', hchecking⟩ := run_bind_ok hnaming
  obtain ⟨hpath, rfl⟩ := lift_ok hpath'
  split at hchecking
  · obtain ⟨text, w₃, htext', hparsing⟩ := run_bind_ok hchecking
    obtain ⟨htext, rfl⟩ := lift_ok htext'
    obtain ⟨predictions, w₄, hread', hasking⟩ := run_bind_ok hparsing
    obtain ⟨hread, rfl⟩ := lift_ok hread'
    obtain ⟨questions, w₅, hexpected', hreporting⟩ := run_bind_ok hasking
    obtain ⟨hexpected, rfl⟩ := lift_ok hexpected'
    obtain ⟨asked, found, score, rfl, hfound, hcounts, hreported⟩ := report_ok hreporting
    obtain ⟨all, hgiven, hrows⟩ := expected?_eq_some hexpected
    rw [hrows] at hfound
    exact .inr ⟨⟨all, predictions, score, found⟩, hgiven,
      ⟨path, text, pathOf_eq_ok hpath, htext, hread⟩, hfound, hcounts, hreported⟩
  · rename_i hmissing
    exact .inl ⟨(work_ok (Yields.say _) hchecking).2, path, pathOf_eq_ok hpath,
      Bool.eq_false_iff.2 hmissing⟩

end

end Positional

/-! ## The accounts of a comparison -/

/-- Every row asked about is counted once, and has one place in the report; the numbers add up. -/
structure Comparison.Accounted (c : Comparison) : Prop where
  rows : c.score.total = (financial c.all).length
  details : c.score.total = c.details.length
  total : c.score.total = c.score.success + c.score.wrong + c.score.errors + c.score.missing
  success : c.score.success = c.score.exact + c.score.strict + c.score.soft + c.score.superSoft
  soft : c.score.soft = 0

theorem headingOf_ne_soft {db : Database} {question : Question} {e : Evaluation}
    (h : evaluated db question = .ok e) : headingOf e.quality ≠ .soft := by
  obtain ⟨-, hquality⟩ | ⟨-, hquality⟩ := evaluated_kinds h
  · rw [hquality]
    decide
  · revert hquality
    cases e.quality <;> decide

theorem Keyed.heading_ne_soft {db : Database} {predictions : Doc} {id : Text} {row : Row}
    {finding : Option Evaluation} {detail : Doc} (h : Judged db predictions id row finding detail) :
    headingOf finding ≠ .soft := by
  cases h with
  | missing => decide
  | @evaluated _ _ e _ _ _ he =>
    rw [headingOf]
    split
    · decide
    · exact headingOf_ne_soft he

theorem Positional.heading_ne_soft {db : Database} {predictions : Doc} {row : Row} {position : Nat}
    {finding : Option Evaluation} {detail : Doc}
    (h : Judged db predictions row position finding detail) : headingOf finding ≠ .soft := by
  cases h with
  | missing => decide
  | evaluated _ _ _ _ he => exact headingOf_ne_soft he

section
variable {world : World} {settings : Settings} {w after : Workspace}

theorem Evaluates.accounted {m : Method} {c : Comparison} (h : Evaluates m world settings w after c)
    (hsoft : ∀ row position finding detail,
      m.judged world.database c.predictions row position finding detail → m.heading finding ≠ .soft) :
    c.Accounted := by
  have hfound : ∀ f ∈ c.found, m.heading f.1 ≠ .soft :=
    forall_mem_of_forall₂ h.found fun _ _ _ hjudged => hsoft _ _ _ _ hjudged
  have hnone : Heading.soft ∉ c.found.map fun f => m.heading f.1 := by
    intro hmem
    obtain ⟨f, hf, heq⟩ := List.mem_map.1 hmem
    exact hfound f hf heq
  exact ⟨h.length.1, h.length.2, h.counts.total_eq, h.counts.success_eq,
    (h.counts.under .soft).trans (List.count_eq_zero.2 hnone)⟩

/-- Whatever method is compared, each row asked about is found once, in the order of the rows, and
counted once. -/
theorem each_question_counted_once :
    (runIn (Keyed.run world settings) w = (.ok (), after) → Keyed.Idle settings w after ∨
      ∃ c, Evaluates Keyed.method world settings w after c ∧ c.Accounted) ∧
    (runIn (Positional.run world settings) w = (.ok (), after) → Positional.Idle settings w after ∨
      ∃ c, Evaluates Positional.method world settings w after c ∧ c.Accounted) := by
  refine ⟨fun hrun => ?_, fun hrun => ?_⟩
  · refine (Keyed.run_ok hrun).imp_right ?_
    rintro ⟨c, hc⟩
    exact ⟨c, hc, hc.accounted fun _ _ _ _ hjudged => Keyed.heading_ne_soft hjudged⟩
  · refine (Positional.run_ok hrun).imp_right ?_
    rintro ⟨c, hc⟩
    exact ⟨c, hc, hc.accounted fun _ _ _ _ hjudged => Positional.heading_ne_soft hjudged⟩

end

/-! A comparison in which one prediction matches, one cannot be run, and one is missing. -/

def sampleWorld : World :=
  { TestSet.sampleWorld with database := ⟨none, [("s", .table ⟨["a"], [[.text "x"]]⟩)]⟩ }

def sampleData : Text :=
  "\x7b\"db_id\":[\"financial\",\"o\"],\"question\":\"q\",\"SQL\":\"s\"\x7d"

def sampleMoreData : Text :=
  "\x7b\"db_id\":[\"financial\",\"financial\"],\"question\":\"q\",\"SQL\":\"s\"\x7d"

def samplePredictions : Text :=
  "\x7b\"0\": \"s\", \"1\": \"u\"\x7d"

/-- Three financial rows among four, with predictions for two of them. -/
def sampleFiles : Files where
  base := ["w"]
  folders := []
  contents := [(["w", "d"], Text.Utf8.bytes sampleData), (["w", "e"], Text.Utf8.bytes sampleMoreData),
    (["w", "p"], Text.Utf8.bytes samplePredictions), (["w", "financial.sqlite"], [])]

def sampleSettings : Settings :=
  ⟨some "p", some "d", some "e", some "financial.sqlite", some "o/r"⟩

/-- Does a run end well and leave a file that was not there? -/
def writes (act : Working Unit) (w : Workspace) (path : Text) : Bool :=
  match runIn act w with
  | (.ok _, after) => !(w.files.text? path).isSome && (after.files.text? path).isSome
  | (.error _, _) => false

theorem ran_ok {act : Working Unit} {w : Workspace} {path : Text} (h : writes act w path = true) :
    ∃ after, runIn act w = (.ok (), after) ∧ after.files ≠ w.files := by
  rcases hrun : runIn act w with ⟨fault | u, after⟩
  · rw [writes, hrun] at h
    cases h
  · rw [writes, hrun, Bool.and_eq_true, Bool.not_eq_true'] at h
    refine ⟨after, rfl, fun hsame => ?_⟩
    rw [hsame, h.1] at h
    cases h.2

theorem writes_sample :
    writes (Keyed.run sampleWorld sampleSettings) ⟨.start, sampleFiles⟩ "o/r" = true ∧
    writes (Positional.run sampleWorld sampleSettings) ⟨.start, sampleFiles⟩ "o/r" = true := by
  decide +kernel

theorem length_financial_sample {all : Dataset}
    (h : Given sampleFiles sampleSettings.data sampleSettings.moreData all) :
    (financial all).length = 3 := by
  have hlength : (do
      let first ← readDataset sampleFiles "d"
      let second ← readDataset sampleFiles "e"
      return (financial (first.append second)).length).toOption = some 3 := by decide +kernel
  have hexist : sampleFiles.exist "e" = true := rfl
  cases h with
  | one _ hmore =>
    rw [hexist] at hmore
    cases hmore
  | both hfirst hsecond =>
    rw [hfirst, hsecond] at hlength
    exact Option.some.inj hlength

theorem each_question_counted_once_sample : ∃ after after' c c',
    runIn (Keyed.run sampleWorld sampleSettings) ⟨.start, sampleFiles⟩ = (.ok (), after) ∧
    Evaluates Keyed.method sampleWorld sampleSettings ⟨.start, sampleFiles⟩ after c ∧
    c.Accounted ∧ c.score.total = 3 ∧
    runIn (Positional.run sampleWorld sampleSettings) ⟨.start, sampleFiles⟩ = (.ok (), after') ∧
    Evaluates Positional.method sampleWorld sampleSettings ⟨.start, sampleFiles⟩ after' c' ∧
    c'.Accounted ∧ c'.score.total = 3 := by
  obtain ⟨after, hrun, hnew⟩ := ran_ok writes_sample.1
  obtain ⟨after', hrun', hnew'⟩ := ran_ok writes_sample.2
  obtain ⟨c, hc, haccounted⟩ := (each_question_counted_once.1 hrun).resolve_left fun h => hnew h.1
  obtain ⟨c', hc', haccounted'⟩ :=
    (each_question_counted_once.2 hrun').resolve_left fun h => hnew' h.1
  exact ⟨after, after', c, c', hrun, hc, haccounted,
    haccounted.rows.trans (length_financial_sample hc.given), hrun', hc', haccounted',
    haccounted'.rows.trans (length_financial_sample hc'.given)⟩

end QueryBench.Baseline
