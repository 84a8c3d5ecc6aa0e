import QueryBench.Proofs.Baseline.Comparison

/-!
# Predictions that could not be run

The log of an evaluation names an execution status and a match. Of a prediction that could not be run
the status says so, and its match is that of no grade. Comparing by question id goes by the status, and
counts such predictions as errors. Comparing by position goes by the match alone: it has no errors, and
counts such predictions as wrong. So on the same logs both have the same successes, and they divide the
rest alike only if all predictions could be run.

Main statement: `failures_divide_the_methods`.
-/
set_option autoImplicit false

namespace QueryBench.Baseline

/-! ## Logs -/

/-- The execution status and the match that a log names, if it is one. -/
def verdictOf (log : Doc) : Option (Doc × Doc) :=
  match log.field "execution_status", log.field "match_type" with
  | .ok status, .ok quality => some (status, quality)
  | _, _ => none

/-- Did one of the two queries fail, by the log of an evaluation? -/
def failed (log : Doc) : Bool :=
  (verdictOf log).any (·.1.isText "SQL_ERROR")

/-- Are the answers different ones, by the log of an evaluation? -/
def isWrong (log : Doc) : Bool :=
  (verdictOf log).any (·.2.isText "WRONG")

/-- The logs of the evaluations, in the order of the rows. -/
def Comparison.logs (c : Comparison) (m : Method) : List Doc :=
  c.details.map m.log

/-- What was found about a question, and its log. -/
inductive Logged : Option Evaluation → Doc → Prop where
  | missing {log : Doc} (h : verdictOf log = none) : Logged none log
  | failure {log : Doc} {e : Evaluation} (herror : e.sqlError = true) (hquality : e.quality = .none)
      (h : verdictOf log = some (.text "SQL_ERROR", .text "NONE")) : Logged (some e) log
  | graded {log : Doc} {e : Evaluation} (herror : e.sqlError = false)
      (hquality : e.quality ∈ [Match.exact, .strict, .superSoft, .wrong])
      (h : verdictOf log = some (.text "SUCCESS", .text e.quality.label)) : Logged (some e) log

theorem logged_of_evaluated {db : Database} {question : Question} {e : Evaluation} {log : Doc}
    (he : evaluated db question = .ok e) (hlog : log = e.toDoc) : Logged (some e) log := by
  have hverdict : verdictOf log = some (.text e.status, .text e.quality.label) := by
    subst hlog
    rfl
  obtain ⟨herror, hquality⟩ | ⟨herror, hquality⟩ := evaluated_kinds he
  · refine .failure herror hquality ?_
    rw [hverdict, Evaluation.status, herror, hquality]
    rfl
  · refine .graded herror hquality ?_
    rw [hverdict, Evaluation.status, herror]
    rfl

theorem Keyed.logged {db : Database} {predictions : Doc} {id : Text} {row : Row}
    {finding : Option Evaluation} {detail : Doc} (h : Judged db predictions id row finding detail) :
    Logged finding (method.log detail) := by
  cases h with
  | missing => exact .missing rfl
  | evaluated _ _ _ he => exact logged_of_evaluated he rfl

theorem Positional.logged {db : Database} {predictions : Doc} {row : Row} {position : Nat}
    {finding : Option Evaluation} {detail : Doc}
    (h : Judged db predictions row position finding detail) : Logged finding (method.log detail) := by
  cases h with
  | missing => exact .missing rfl
  | evaluated _ _ _ _ he => exact logged_of_evaluated he rfl

/-! ## Headings of logs -/

section
variable {finding : Option Evaluation} {log : Doc}

theorem Keyed.heading_iff (h : Logged finding log) :
    (headingOf finding = .errors ↔ failed log = true) ∧
    (headingOf finding = .wrong ↔ isWrong log = true) ∧
    (headingOf finding = .missing ↔ verdictOf log = none) := by
  cases h with
  | missing h =>
    rw [failed, isWrong, h]
    decide
  | failure herror hquality h =>
    rw [headingOf, herror, hquality, failed, isWrong, h]
    decide
  | graded herror hquality h =>
    rw [headingOf, herror, failed, isWrong, h]
    revert hquality
    cases Evaluation.quality _ <;> decide

theorem Positional.heading_iff (h : Logged finding log) :
    headingOf finding ≠ .errors ∧
    (headingOf finding = .wrong ↔ (failed log || isWrong log) = true) ∧
    (headingOf finding = .missing ↔ verdictOf log = none) := by
  cases h with
  | missing h =>
    rw [failed, isWrong, h]
    decide
  | failure _ hquality h =>
    rw [headingOf, hquality, failed, isWrong, h]
    decide
  | graded _ hquality h =>
    rw [headingOf, failed, isWrong, h]
    revert hquality
    cases Evaluation.quality _ <;> decide

theorem Logged.not_both (h : Logged finding log) : ¬ (failed log = true ∧ isWrong log = true) := by
  obtain ⟨herrors, hwrong, -⟩ := Keyed.heading_iff h
  rw [← herrors, ← hwrong]
  rintro ⟨he, hw⟩
  rw [he] at hw
  cases hw

end

/-! ## Scores of logs -/

/-- How many of the findings a heading has, told by the logs. -/
theorem Evaluates.under_eq {m : Method} {world : World} {settings : Settings} {w after : Workspace}
    {c : Comparison} (h : Evaluates m world settings w after c) {heading : Heading} {p : Doc → Bool}
    (hp : ∀ row position finding detail,
      m.judged world.database c.predictions row position finding detail →
        (m.heading finding = heading ↔ p (m.log detail) = true)) :
    c.score.under heading = (c.logs m).countP p := by
  have hfound : ∀ f ∈ c.found, (m.heading f.1 == heading) = true ↔ p (m.log f.2) = true :=
    forall_mem_of_forall₂ h.found fun _ _ _ hjudged => beq_iff_eq.trans (hp _ _ _ _ hjudged)
  rw [h.counts.under, List.count_eq_countP, List.countP_map, Comparison.logs, Comparison.details,
    List.map_map, List.countP_map]
  exact List.countP_congr hfound

theorem countP_or {α : Type} {p q : α → Bool} {items : List α}
    (h : ∀ a ∈ items, ¬ (p a = true ∧ q a = true)) :
    items.countP (fun a => p a || q a) = items.countP p + items.countP q := by
  induction items with
  | nil => rfl
  | cons a items ih =>
    obtain ⟨ha, hitems⟩ := List.forall_mem_cons.1 h
    rw [List.countP_cons, List.countP_cons, List.countP_cons, ih hitems]
    cases hp : p a <;> cases hq : q a <;> simp_all <;> omega

section
variable {world : World} {settings : Settings} {w after : Workspace} {c : Comparison}

theorem Keyed.scores (h : Evaluates method world settings w after c) :
    c.score.errors = (c.logs method).countP failed ∧
    c.score.wrong = (c.logs method).countP isWrong ∧
    c.score.missing = (c.logs method).countP fun log => (verdictOf log).isNone := by
  have herrors : c.score.under .errors = _ :=
    h.under_eq fun _ _ _ _ hjudged => (heading_iff (logged hjudged)).1
  have hwrong : c.score.under .wrong = _ :=
    h.under_eq fun _ _ _ _ hjudged => (heading_iff (logged hjudged)).2.1
  have hmissing : c.score.under .missing = (c.logs method).countP fun log => (verdictOf log).isNone :=
    h.under_eq fun _ _ _ _ hjudged =>
      (heading_iff (logged hjudged)).2.2.trans Option.isNone_iff_eq_none.symm
  exact ⟨herrors, hwrong, hmissing⟩

theorem Positional.scores (h : Evaluates method world settings w after c) :
    c.score.errors = 0 ∧
    c.score.wrong = (c.logs method).countP failed + (c.logs method).countP isWrong ∧
    c.score.missing = (c.logs method).countP fun log => (verdictOf log).isNone := by
  have herrors : c.score.under .errors = (c.logs method).countP fun _ => false :=
    h.under_eq fun _ _ _ _ hjudged =>
      iff_of_false (heading_iff (logged hjudged)).1 Bool.false_ne_true
  have hwrong : c.score.under .wrong = (c.logs method).countP fun log => failed log || isWrong log :=
    h.under_eq fun _ _ _ _ hjudged => (heading_iff (logged hjudged)).2.1
  have hmissing : c.score.under .missing = (c.logs method).countP fun log => (verdictOf log).isNone :=
    h.under_eq fun _ _ _ _ hjudged =>
      (heading_iff (logged hjudged)).2.2.trans Option.isNone_iff_eq_none.symm
  have hapart : ∀ log ∈ c.logs method, ¬ (failed log = true ∧ isWrong log = true) := by
    rw [Comparison.logs, Comparison.details, List.map_map, List.forall_mem_map]
    exact forall_mem_of_forall₂ h.found fun _ _ _ hjudged => (logged hjudged).not_both
  exact ⟨herrors.trans (congrFun List.countP_false _), hwrong.trans (countP_or hapart), hmissing⟩

end

theorem countP_verdictOf (logs : List Doc) (p : Option (Doc × Doc) → Bool) :
    logs.countP (fun log => p (verdictOf log)) = (logs.map verdictOf).countP p := by
  rw [List.countP_map]
  rfl

theorem countP_of_verdicts {logs logs' : List Doc} (h : logs.map verdictOf = logs'.map verdictOf)
    (p : Option (Doc × Doc) → Bool) :
    logs.countP (fun log => p (verdictOf log)) = logs'.countP fun log => p (verdictOf log) := by
  rw [countP_verdictOf, countP_verdictOf, h]

/-- What becomes of predictions that could not be run: comparing by question id counts them as errors,
and comparing by position as wrong. -/
theorem failures_divide_the_methods (world world' : World) (settings settings' : Settings)
    (w w' after after' : Workspace) :
    (runIn (Keyed.run world settings) w = (.ok (), after) → Keyed.Idle settings w after ∨
      ∃ c, Evaluates Keyed.method world settings w after c ∧
        c.score.errors = (c.logs Keyed.method).countP failed ∧
        c.score.wrong = (c.logs Keyed.method).countP isWrong) ∧
    (runIn (Positional.run world' settings') w' = (.ok (), after') →
      Positional.Idle settings' w' after' ∨
      ∃ c, Evaluates Positional.method world' settings' w' after' c ∧ c.score.errors = 0 ∧
        c.score.wrong = (c.logs Positional.method).countP failed +
          (c.logs Positional.method).countP isWrong) ∧
    ∀ c c', Evaluates Keyed.method world settings w after c →
      Evaluates Positional.method world' settings' w' after' c' →
      (c.logs Keyed.method).map verdictOf = (c'.logs Positional.method).map verdictOf →
      c'.score.success = c.score.success ∧ c'.score.wrong = c.score.wrong + c.score.errors ∧
      ((c'.score.wrong = c.score.wrong ∧ c'.score.errors = c.score.errors) ↔
        ∀ log ∈ c.logs Keyed.method, failed log = false) := by
  refine ⟨fun hrun => ?_, fun hrun => ?_, fun c c' hc hc' hsame => ?_⟩
  · refine (Keyed.run_ok hrun).imp_right ?_
    rintro ⟨c, hc⟩
    obtain ⟨herrors, hwrong, -⟩ := Keyed.scores hc
    exact ⟨c, hc, herrors, hwrong⟩
  · refine (Positional.run_ok hrun).imp_right ?_
    rintro ⟨c, hc⟩
    obtain ⟨herrors, hwrong, -⟩ := Positional.scores hc
    exact ⟨c, hc, herrors, hwrong⟩
  · obtain ⟨herrors, hwrong, hmissing⟩ := Keyed.scores hc
    obtain ⟨herrors', hwrong', hmissing'⟩ := Positional.scores hc'
    -- what is counted of the logs is the same
    have hfailed : (c.logs Keyed.method).countP failed = (c'.logs Positional.method).countP failed :=
      countP_of_verdicts hsame (Option.any fun v => v.1.isText "SQL_ERROR")
    have hisWrong :
        (c.logs Keyed.method).countP isWrong = (c'.logs Positional.method).countP isWrong :=
      countP_of_verdicts hsame (Option.any fun v => v.2.isText "WRONG")
    have hisNone := countP_of_verdicts hsame Option.isNone
    have htotal : c.score.total = c'.score.total := by
      have hlength := congrArg List.length hsame
      rw [List.length_map, List.length_map, Comparison.logs, Comparison.logs, List.length_map,
        List.length_map, ← hc.length.2, ← hc'.length.2] at hlength
      exact hlength
    have hsum := hc.counts.total_eq
    have hsum' := hc'.counts.total_eq
    have hnone : (c.logs Keyed.method).countP failed = 0 ↔
        ∀ log ∈ c.logs Keyed.method, failed log = false := by
      simp only [List.countP_eq_zero, Bool.not_eq_true]
    rw [← hnone]
    omega

/-! A database without answers: no prediction can be run. -/

/-- A world whose database answers no query. -/
def failingWorld : World :=
  { sampleWorld with database := ⟨none, []⟩ }

def failingFiles : Files where
  base := ["w"]
  folders := []
  contents := [(["w", "d"], Text.Utf8.bytes
      "\x7b\"db_id\":[\"financial\",\"financial\"],\"question\":\"q\",\"SQL\":\"s\"\x7d"),
    (["w", "e"], Text.Utf8.bytes "[]"),
    (["w", "p"], Text.Utf8.bytes "\x7b\"0\": \"u\", \"1\": \"v\"\x7d"),
    (["w", "financial.sqlite"], [])]

theorem writes_failing :
    writes (Keyed.run failingWorld sampleSettings) ⟨.start, failingFiles⟩ "o/r" = true ∧
    writes (Positional.run failingWorld sampleSettings) ⟨.start, failingFiles⟩ "o/r" = true := by
  decide +kernel

theorem verdict_failing {question : Question} {e : Evaluation}
    (h : evaluated failingWorld.database question = .ok e) :
    verdictOf e.toDoc = some (.text "SQL_ERROR", .text "NONE") := by
  have hquery (sql : Doc) : executed failingWorld.database sql = .failed "Query returned None" := by
    cases sql <;> rfl
  unfold evaluated at h
  rw [hquery, hquery] at h
  cases h
  rfl

theorem financial_failing {all : Dataset}
    (h : Given failingFiles sampleSettings.data sampleSettings.moreData all) :
    (financial all).length = 2 ∧ ∀ row ∈ financial all, row.cell? "question_id" = none := by
  have hrows : (do
      let first ← readDataset failingFiles "d"
      let second ← readDataset failingFiles "e"
      let asked := financial (first.append second)
      return (asked.length, asked.all fun row => (row.cell? "question_id").isNone)).toOption =
        some (2, true) := by decide +kernel
  have hexist : failingFiles.exist "e" = true := rfl
  cases h with
  | one _ hmore =>
    rw [hexist] at hmore
    cases hmore
  | both hfirst hsecond =>
    rw [hfirst, hsecond] at hrows
    obtain ⟨hlength, hids⟩ := Prod.ext_iff.1 (Option.some.inj hrows)
    exact ⟨hlength, fun row hrow => Option.isNone_iff_eq_none.1 (List.all_eq_true.1 hids row hrow)⟩

theorem predictions_failing {predictions : Doc} (h : sampleSettings.Predicts failingFiles predictions)
    {i : Nat} (hi : i < 2) :
    predictions.member (toString i) ≠ .ok .null ∧ predictions.has (toString i) ≠ .ok false := by
  have hall : (do
      let text ← failingFiles.read "p"
      let predictions ← Json.read text
      return (List.range 2).all fun i =>
        (predictions.member (toString i)).toOption.any (fun d : Doc => d.kind == .text) &&
          (predictions.has (toString i)).toOption == some true : Except Fault Bool).toOption =
        some true := by
    decide +kernel
  obtain ⟨path, text, hpath, htext, hread⟩ := h
  cases hpath
  rw [htext, ok_bind, hread] at hall
  have hi := List.all_eq_true.1 (Option.some.inj hall) i (List.mem_range.2 hi)
  refine ⟨fun hmember => ?_, fun hhas => ?_⟩
  · rw [hmember] at hi
    cases hi
  · rw [hhas, Bool.and_eq_true] at hi
    cases hi.2

theorem verdicts_failing {m : Method} {after : Workspace} {c : Comparison}
    (h : Evaluates m failingWorld sampleSettings ⟨.start, failingFiles⟩ after c)
    (hm : ∀ row position finding detail, row.cell? "question_id" = none → position < 2 →
      m.judged failingWorld.database c.predictions row position finding detail →
        verdictOf (m.log detail) = some (.text "SQL_ERROR", .text "NONE")) :
    (c.logs m).map verdictOf = List.replicate 2 (some (.text "SQL_ERROR", .text "NONE")) := by
  obtain ⟨hlength, hids⟩ := financial_failing h.given
  refine List.eq_replicate_iff.2 ⟨?_, ?_⟩
  · rw [List.length_map, Comparison.logs, List.length_map, ← h.length.2, h.length.1, hlength]
  · rw [Comparison.logs, Comparison.details, List.map_map, List.map_map, List.forall_mem_map]
    refine forall_mem_of_forall₂ h.found ?_
    rintro ⟨row, position⟩ hmem f hjudged
    obtain ⟨hposition, hrow⟩ := List.mem_zipIdx' hmem
    have hrow : row ∈ financial c.all := hrow ▸ List.getElem_mem hposition
    exact hm row position f.1 f.2 (hids row hrow) (hlength ▸ hposition) hjudged

theorem failures_divide_the_methods_failing : ∃ after after' c c',
    runIn (Keyed.run failingWorld sampleSettings) ⟨.start, failingFiles⟩ = (.ok (), after) ∧
    Evaluates Keyed.method failingWorld sampleSettings ⟨.start, failingFiles⟩ after c ∧
    c.score.errors = 2 ∧
    runIn (Positional.run failingWorld sampleSettings) ⟨.start, failingFiles⟩ = (.ok (), after') ∧
    Evaluates Positional.method failingWorld sampleSettings ⟨.start, failingFiles⟩ after' c' ∧
    c'.score.errors = 0 ∧ c'.score.wrong = c.score.wrong + 2 ∧ c'.score.success = c.score.success := by
  obtain ⟨after, hrun, hnew⟩ := ran_ok writes_failing.1
  obtain ⟨after', hrun', hnew'⟩ := ran_ok writes_failing.2
  obtain ⟨hkeyed, hpositional, hboth⟩ := failures_divide_the_methods failingWorld failingWorld
    sampleSettings sampleSettings ⟨.start, failingFiles⟩ ⟨.start, failingFiles⟩ after after'
  obtain ⟨c, hc, herrors, -⟩ := (hkeyed hrun).resolve_left fun h => hnew h.1
  obtain ⟨c', hc', hnone, -⟩ := (hpositional hrun').resolve_left fun h => hnew' h.1
  have hverdicts := verdicts_failing hc fun row position finding detail hid hposition hjudged => by
    cases hjudged with
    | missing hmember =>
      rw [Keyed.idOf, hid] at hmember
      exact absurd hmember (predictions_failing hc.predicted hposition).1
    | evaluated _ _ _ he => exact verdict_failing he
  have hverdicts' := verdicts_failing hc' fun row position finding detail _ hposition hjudged => by
    cases hjudged with
    | missing hhas => exact absurd hhas (predictions_failing hc'.predicted hposition).2
    | evaluated _ _ _ _ he => exact verdict_failing he
  have htwo : (c.logs Keyed.method).countP failed = 2 := by
    have hmap := countP_verdictOf (c.logs Keyed.method) (Option.any fun v => v.1.isText "SQL_ERROR")
    rw [hverdicts] at hmap
    exact hmap
  obtain ⟨hsuccess, hwrong, -⟩ := hboth c c' hc hc' (hverdicts.trans hverdicts'.symm)
  rw [herrors, htwo] at hwrong
  exact ⟨after, after', c, c', hrun, hc, herrors.trans htwo, hrun', hc', hnone, hwrong, hsuccess⟩

/-- The number of errors that a report by position has, and the number of its logs that failed. -/
def reportedErrors (report : Doc) : Except Fault (Option Int × Nat) := do
  let summary ← report.field "summary"
  let errors ← summary.field "errors"
  let details ← report.field "details"
  let details ← details.elements
  return (errors.asInt?, (details.map Positional.method.log).countP failed)

theorem failure_without_error : ∃ after text report,
    runIn (Positional.run failingWorld sampleSettings) ⟨.start, failingFiles⟩ = (.ok (), after) ∧
    after.files.text? "o/r" = some text ∧ Json.read text = .ok report ∧
    reportedErrors report = .ok (some 0, 2) := by
  have hleft : ((runIn (Positional.run failingWorld sampleSettings)
      ⟨.start, failingFiles⟩).2.files.text? "o/r").bind (fun text =>
        (Json.read text >>= reportedErrors).toOption) = some (some 0, 2) := by decide +kernel
  obtain ⟨after, hrun, -⟩ := ran_ok writes_failing.2
  rw [hrun] at hleft
  obtain ⟨text, htext, hreported⟩ := Option.bind_eq_some_iff.1 hleft
  obtain ⟨report, hread, hreported⟩ := ok_of_bind (ok_of_toOption hreported)
  exact ⟨after, text, report, hrun, htext, hread, hreported⟩

end QueryBench.Baseline
