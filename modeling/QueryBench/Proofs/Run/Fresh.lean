import QueryBench.Proofs.Pipeline.Steady
import QueryBench.Proofs.Run.Report
import QueryBench.Proofs.Run.Workspace

/-!
# Runs of a test set that find no report

A run that ended well has a result for every item. The report holds the results in the order of the
items, and the summary holds their counters.

Main definitions: `TestSet.Reported`, between an item and its result, and `TestSet.FreshRun`. Main
statement: `FreshRun.left`.
-/
set_option autoImplicit false

namespace QueryBench.TestSet

/-! ## Items -/

/-- Is this the result of an item, and can it be written to a report? Which outcomes may arise from
an inquiry is a parameter. -/
def Reported (Arises : Inquiry → Outcome → Prop) (hints : Bool) (item result : Doc) : Prop :=
  ∃ q outcome, inquiryOf hints item = .ok q ∧ Arises q outcome ∧ result = outcome.toDoc ∧
    reportLine result = .ok (lineOf result) ∧ Text.Utf8.Whole (lineOf result)

section
variable {Arises : Inquiry → Outcome → Prop} {pipeline : Pipeline} {hints : Bool}

theorem Reported.reportable {item result : Doc} (h : Reported Arises hints item result) :
    Reportable result := by
  obtain ⟨q, outcome, -, -, rfl, hline, -⟩ := h
  obtain ⟨hshort, hdepth, -⟩ := reportLine_eq_ok hline
  exact ⟨⟨_, rfl⟩, hshort, hdepth⟩

theorem Reported.written {item result : Doc} (h : Reported Arises hints item result) :
    reportLine result = .ok (lineOf result) ∧ Text.Utf8.Whole (lineOf result) := by
  obtain ⟨_, _, -, -, -, hwritten⟩ := h
  exact hwritten

theorem Reported.forall_mem {items results : List Doc}
    (h : List.Forall₂ (Reported Arises hints) items results) :
    ∀ r ∈ results, ∃ item, Reported Arises hints item r := by
  induction h with
  | nil => simp
  | cons hfirst hrest ih => exact List.forall_mem_cons.2 ⟨⟨_, hfirst⟩, ih⟩

theorem Reported.forall_reportable {items results : List Doc}
    (h : List.Forall₂ (Reported Arises hints) items results) : ∀ r ∈ results, Reportable r := by
  intro r hr
  obtain ⟨item, hitem⟩ := Reported.forall_mem h r hr
  exact hitem.reportable

theorem Reported.whole {items results : List Doc}
    (h : List.Forall₂ (Reported Arises hints) items results) :
    Text.Utf8.Whole (reportOf results) := by
  intro g hg
  obtain ⟨line, hline, hg⟩ := List.mem_flatten.1 hg
  obtain ⟨r, hr, rfl⟩ := List.mem_map.1 hline
  obtain ⟨item, q, outcome, -, -, -, -, hwhole⟩ := Reported.forall_mem h r hr
  exact hwhole g hg

variable {output : Text} {place : Location}

theorem runItems_ok
    (hprocess : ∀ q session, Arises q ((pipeline.process q).run session).1) {items : List Doc}
    {tally total : Doc} {content : List UInt8} {w w' : Workspace} (htarget : w.files.target output = .ok place)
    (hcontent : w.files.contents.lookup place = some content)
    (h : runIn (runItems pipeline hints output tally items) w = (.ok total, w')) :
    ∃ results, List.Forall₂ (Reported Arises hints) items results ∧
      results.foldlM Tally.count tally = .ok total ∧
      w'.files = w.files.put place (content ++ Text.Utf8.bytes (reportOf results)) := by
  induction items generalizing tally content w with
  | nil =>
    cases h
    refine ⟨[], .nil, rfl, ?_⟩
    rw [show Text.Utf8.bytes (reportOf []) = [] from rfl, List.append_nil, Files.put_lookup hcontent]
  | cons item rest ih =>
    rw [runItems] at h
    obtain ⟨q, w₁, hinquiry, h₁⟩ := run_bind_ok h
    obtain ⟨outcome, w₂, houtcome, h₂⟩ := run_bind_ok h₁
    obtain ⟨counted, w₃, htally, h₃⟩ := run_bind_ok h₂
    obtain ⟨line, w₄, hwrite, h₄⟩ := run_bind_ok h₃
    obtain ⟨u, w₅, hchange, h₅⟩ := run_bind_ok h₄
    obtain ⟨hq, rfl⟩ := lift_ok hinquiry
    obtain ⟨hrun, hfiles⟩ := inSession_ok houtcome
    have harises : Arises q outcome := hrun ▸ hprocess q _
    obtain ⟨hcount, rfl⟩ := lift_ok htally
    obtain ⟨hline, rfl⟩ := lift_ok hwrite
    obtain ⟨place', htarget', hwhole, happend⟩ := Files.append_eq_ok.1 (changeFiles_ok hchange)
    rw [hfiles] at htarget' happend
    obtain rfl : place' = place := Except.ok.inj (htarget'.symm.trans htarget)
    rw [hcontent, Option.getD_some] at happend
    have hlineOf := (reportLine_eq_ok hline).2.2
    subst hlineOf
    have hfree := Files.free_of_target htarget
    obtain ⟨results, hresults, hfold, hw'⟩ := ih
      (by rw [happend]; exact Files.target_put hfree _ htarget)
      (by rw [happend]; exact Files.lookup_put_self _ _ _) h₅
    refine ⟨_ :: results, .cons ⟨q, outcome, hq, harises, rfl, hline, hwhole⟩ hresults, ?_, ?_⟩
    · rw [List.foldlM_cons, hcount]
      exact hfold
    · rw [hw', happend, Files.put_put, List.append_assoc]
      congr 2
      simp [reportOf, lineOf, Text.Utf8.bytes]

/-! ## The summary -/

theorem summarize_ok {tally : Doc} {u : Unit} {w w' : Workspace}
    (h : runIn (summarize output tally) w = (.ok u, w')) :
    ∃ text files, Json.writeChecked summaryStyle tally = .ok text ∧
      w.files.write (summaryPath output) text = .ok files ∧ w'.files = files := by
  obtain ⟨text, w₁, hwrite, h₁⟩ := run_bind_ok h
  obtain ⟨u', w₂, hsay, h₂⟩ := run_bind_ok h₁
  obtain ⟨htext, rfl⟩ := lift_ok hwrite
  obtain ⟨-, hfiles⟩ := work_ok (Yields.say text) hsay
  have hchange := changeFiles_ok h₂
  rw [hfiles] at hchange
  exact ⟨text, _, htext, hchange, rfl⟩

/-! ## Runs -/

/-- What stands between the beginning of a report and the results that are added. -/
def separator (cut : Text) : Text :=
  if cut.isEmpty then "" else "\n"

theorem whole_separator (cut : Text) : Text.Utf8.Whole (separator cut) := by
  unfold separator
  split <;> simp [Text.Utf8.Whole, Text.ofString, Glyph.half?]

/-- The report that a run finds; one that is not there is empty. -/
def foundReport (files : Files) (output : Text) : Except Fault Text :=
  if files.exist output then files.read output else .ok ""

theorem runRemaining_eq (pipeline : Pipeline) (hints : Bool) (output : Text) (items : List Doc) :
    runRemaining pipeline hints output items = (do
      let files ← currentFiles
      let earlier ← foundReport files output
      let (tally, done) ← resume Tally.start 0 (Text.lines earlier)
      if done < items.length then
        changeFiles (·.append output (separator earlier))
        let tally ← runItems pipeline hints output tally (items.drop done)
        summarize output tally) := by
  unfold runRemaining foundReport
  refine congrArg (currentFiles >>= ·) (funext fun files => ?_)
  split <;> rfl

/-- A run changes nothing if the report it finds has a result for every item. Otherwise it adds the
results that are missing, and then it writes the summary. -/
theorem runRemaining_adds
    (hprocess : ∀ q session, Arises q ((pipeline.process q).run session).1) {items : List Doc}
    {u : Unit} {w w' : Workspace}
    (h : runIn (runRemaining pipeline hints output items) w = (.ok u, w')) :
    ∃ earlier, foundReport w.files output = .ok earlier ∧
      (items.length ≤ (resultsOf earlier).length ∧ w'.files = w.files ∨
        (resultsOf earlier).length < items.length ∧ ∃ place results total summary,
          w.files.target output = .ok place ∧
          List.Forall₂ (Reported Arises hints) (items.drop (resultsOf earlier).length) results ∧
          (resultsOf earlier ++ results).foldlM Tally.count Tally.start = .ok total ∧
          Json.writeChecked summaryStyle total = .ok summary ∧
          (w.files.put place ((w.files.contents.lookup place).getD [] ++
            Text.Utf8.bytes (separator earlier ++ reportOf results))).write (summaryPath output)
              summary = .ok w'.files) := by
  rw [runRemaining_eq] at h
  obtain ⟨files, w₁, hcurrent, h₁⟩ := run_bind_ok h
  cases hcurrent
  obtain ⟨earlier, w₂, hearlier, h₂⟩ := run_bind_ok h₁
  obtain ⟨hfound, rfl⟩ := lift_ok hearlier
  obtain ⟨⟨tally, done⟩, w₃, hresume, h₃⟩ := run_bind_ok h₂
  obtain ⟨hresumed, rfl⟩ := lift_ok hresume
  obtain ⟨hcount, rfl⟩ := resume_ok hresumed
  refine ⟨earlier, hfound, ?_⟩
  dsimp only at h₃
  split at h₃
  next hfew =>
    obtain ⟨u₁, w₄, hchange, h₄⟩ := run_bind_ok h₃
    obtain ⟨total, w₅, hrunItems, h₅⟩ := run_bind_ok h₄
    obtain ⟨place, htarget, -, hsplit⟩ := Files.append_eq_ok.1 (changeFiles_ok hchange)
    have hfree := Files.free_of_target htarget
    obtain ⟨results, hresults, htotal, hfiles⟩ := runItems_ok hprocess
      (by rw [hsplit]; exact Files.target_put hfree _ htarget)
      (by rw [hsplit]; exact Files.lookup_put_self _ _ _) hrunItems
    obtain ⟨summary, files, hsummary, hwrite, rfl⟩ := summarize_ok h₅
    rw [hfiles, hsplit, Files.put_put, List.append_assoc] at hwrite
    refine .inr ⟨hfew, place, results, total, summary, htarget, hresults, ?_, hsummary, ?_⟩
    · rw [List.foldlM_append, hcount, ok_bind, htotal]
    · rw [Text.Utf8.bytes, List.flatMap_append]
      exact hwrite
  next hmany =>
    cases h₃
    exact .inl ⟨Nat.le_of_not_lt hmany, rfl⟩

/-- A run without an earlier report writes the results of all items, and then the summary. -/
theorem runRemaining_ok
    (hprocess : ∀ q session, Arises q ((pipeline.process q).run session).1) {items : List Doc}
    (hitems : items ≠ []) {u : Unit} {w w' : Workspace} (hmissing : w.files.exist output = false)
    (h : runIn (runRemaining pipeline hints output items) w = (.ok u, w')) :
    ∃ place results total summary, w.files.target output = .ok place ∧
      List.Forall₂ (Reported Arises hints) items results ∧
      results.foldlM Tally.count Tally.start = .ok total ∧
      Json.writeChecked summaryStyle total = .ok summary ∧
      (w.files.put place (Text.Utf8.bytes (reportOf results))).write (summaryPath output) summary =
        .ok w'.files := by
  obtain ⟨earlier, hfound, hleft⟩ := runRemaining_adds hprocess h
  obtain rfl : earlier = "" := by
    rw [foundReport, hmissing] at hfound
    exact (Except.ok.inj hfound).symm
  rcases hleft with ⟨hnone, -⟩ | ⟨-, place, results, total, summary, htarget, hresults, htotal,
    hsummary, hwrite⟩
  · exact absurd (List.length_eq_zero_iff.1 (Nat.le_zero.1 hnone)) hitems
  · rw [Files.lookup_eq_none htarget hmissing] at hwrite
    exact ⟨place, results, total, summary, htarget, hresults, htotal, hsummary, hwrite⟩

end

/-- The settings that the arguments of a run give. -/
def settingsOf (arguments : List Text) : Except CommandLine.Stop Settings :=
  Settings.ofOptions <$> CommandLine.parse parameters arguments

/-- The items of a run: those of the two files, up to the limit. -/
def chosen (settings : Settings) (files : Files) : Except Fault (List Doc) := do
  let items ← load files (← CommandLine.pathOf .lookUp settings.data)
  let more ← load files (← CommandLine.pathOf .lookUp settings.moreData)
  limited settings.limit (items ++ more)

/-- A run that found no report and ended well, with the report and the summary it left in two
files. -/
structure FreshRun (world : World) (arguments : List Text) (settings : Settings) (output : Text)
    (w after : Workspace) (report summary : Text) : Prop where
  understood : settingsOf arguments = .ok settings
  path : settings.output = some output
  missing : w.files.exist output = false
  ended : runIn (run world arguments) w = (.ok (), after)
  report : after.files.text? output = some report
  summary : after.files.text? (summaryPath output) = some summary
  apart : after.files.find (summaryPath output) ≠ after.files.find output

section
variable {world : World} {arguments : List Text} {settings : Settings} {output : Text}
  {w : Workspace}

theorem limited_eq_nil {limit : Option Int} {items first : List Doc}
    (h : limited limit items = .ok first) : first = [] ↔ items = [] := by
  cases limit with
  | none => cases h
  | some n =>
    obtain rfl := Except.ok.inj h
    split
    next hn =>
      have hpositive : n.toNat ≠ 0 := by omega
      simp [List.take_eq_nil_iff, hpositive]
    next => rfl

theorem yields_ask (hsettings : settingsOf arguments = .ok settings) (program : Text) :
    ∃ given, Settings.ofOptions given = settings ∧
      Yields (CommandLine.ask program parameters arguments) (.ok given) := by
  obtain ⟨given, hgiven, rfl⟩ := ok_of_map hsettings
  exact ⟨given, rfl, CommandLine.yields_ask hgiven program⟩

theorem run_ok {u : Unit} {after : Workspace} (hsettings : settingsOf arguments = .ok settings)
    (houtput : settings.output = some output)
    (h : runIn (run world arguments) w = (.ok u, after)) :
    after.files = w.files ∧ (∀ items, chosen settings w.files = .ok items → items = []) ∨
      ∃ pipeline items w', Pipeline.started world (settings.model.getD "") = .ok pipeline ∧
        chosen settings w.files = .ok items ∧ items ≠ [] ∧ w'.files = w.files ∧
        runIn (runRemaining pipeline settings.hints output items) w' = (.ok u, after) := by
  obtain ⟨given, rfl, hask⟩ := yields_ask hsettings world.program
  obtain ⟨given', w₁, hgiven, h₁⟩ := run_bind_ok h
  obtain ⟨heq, hfiles₁⟩ := work_ok hask hgiven
  cases heq
  obtain ⟨pipeline, w₂, hstart, h₂⟩ := run_bind_ok h₁
  obtain ⟨hpipeline, hfiles₂⟩ := work_ok (Pipeline.yields_start world _) hstart
  obtain ⟨files, w₃, hcurrent, h₃⟩ := run_bind_ok h₂
  cases hcurrent
  have hfiles := hfiles₂.trans hfiles₁
  obtain ⟨path, w₄, hlift₁, h₄⟩ := run_bind_ok h₃
  obtain ⟨hpath, rfl⟩ := lift_ok hlift₁
  obtain ⟨items, w₅, hlift₂, h₅⟩ := run_bind_ok h₄
  obtain ⟨hitems, rfl⟩ := lift_ok hlift₂
  obtain ⟨path', w₆, hlift₃, h₆⟩ := run_bind_ok h₅
  obtain ⟨hpath', rfl⟩ := lift_ok hlift₃
  obtain ⟨more, w₇, hlift₄, h₇⟩ := run_bind_ok h₆
  obtain ⟨hmore, rfl⟩ := lift_ok hlift₄
  dsimp only at h₇
  have hchosen : chosen (.ofOptions given) w.files =
      limited (Settings.ofOptions given).limit (items ++ more) := by
    rw [← hfiles]
    unfold chosen
    rw [hpath, ok_bind, hitems, ok_bind, hpath', ok_bind, hmore, ok_bind]
  rw [hchosen]
  split at h₇
  next hall =>
    obtain ⟨first, w₈, hlift₅, h₈⟩ := run_bind_ok h₇
    obtain ⟨hfirst, rfl⟩ := lift_ok hlift₅
    obtain ⟨output', w₉, hlift₆, h₉⟩ := run_bind_ok h₈
    obtain ⟨houtput', rfl⟩ := lift_ok hlift₆
    rw [houtput] at houtput'
    cases houtput'
    refine .inr ⟨pipeline, first, _, hpipeline, hfirst, ?_, hfiles, h₉⟩
    rw [Ne, limited_eq_nil hfirst]
    simpa using hall
  next hall =>
    cases h₇
    exact .inl ⟨hfiles, fun first hfirst => (limited_eq_nil hfirst).2 (by simpa using hall)⟩

/-- What a run of items that found no report leaves: the results at `place`, and their counters
beside them. -/
structure Left (Arises : Inquiry → Outcome → Prop) (hints : Bool) (files : Files) (output : Text)
    (items results : List Doc) (place beside : Location) (report summary : Text) : Prop where
  target : files.target output = .ok place
  reported : List.Forall₂ (Reported Arises hints) items results
  counted : ∃ total, results.foldlM Tally.count Tally.start = .ok total ∧
    Json.writeChecked summaryStyle total = .ok summary
  report : report = reportOf results
  summaryTarget :
    (files.put place (Text.Utf8.bytes (reportOf results))).target (summaryPath output) = .ok beside
  apart : place ≠ beside
  whole : Text.Utf8.Whole summary

theorem FreshRun.left {after : Workspace} {report summary : Text}
    (h : FreshRun world arguments settings output w after report summary)
    (Arises : Pipeline → Inquiry → Outcome → Prop)
    (hprocess : ∀ pipeline, Pipeline.started world (settings.model.getD "") = .ok pipeline →
      ∀ q session, Arises pipeline q ((pipeline.process q).run session).1) :
    ∃ pipeline items results place beside,
      Pipeline.started world (settings.model.getD "") = .ok pipeline ∧
      chosen settings w.files = .ok items ∧ items ≠ [] ∧
      Left (Arises pipeline) settings.hints w.files output items results place beside report
        summary := by
  rcases run_ok h.understood h.path h.ended with ⟨hsame, -⟩ | ⟨pipeline, items, w', hpipeline,
    hitems, hne, hfiles, hrun⟩
  · -- a run without items leaves no report
    have hreport := h.report
    rw [hsame] at hreport
    exact absurd hreport (by rw [Files.text?_eq_none h.missing]; simp)
  · obtain ⟨place, results, total, text, htarget, hresults, htotal, htext, hwrite⟩ :=
      runRemaining_ok (hprocess pipeline hpipeline) hne (by rw [hfiles]; exact h.missing) hrun
    rw [hfiles] at htarget hwrite
    obtain ⟨beside, hbeside, hwhole, hafter⟩ := Files.write_eq_ok.1 hwrite
    have hfind := Files.find_put_self htarget (Text.Utf8.bytes (reportOf results))
    have hfree := Files.free_of_target hbeside
    have hapart : place ≠ beside := by
      rintro rfl
      apply h.apart
      rw [hafter, Files.find_put_self hbeside, Files.find_put hfree _ hfind]
    have hreport : after.files.text? output = some (reportOf results) := by
      rw [hafter]
      refine Files.text?_put hfree _ (Files.text?_put_self (Reported.whole hresults) htarget) ?_
      rw [hfind]
      exact fun heq => hapart (Except.ok.inj heq)
    have hsummary : after.files.text? (summaryPath output) = some text := by
      rw [hafter]
      exact Files.text?_put_self hwhole hbeside
    obtain rfl := Option.some.inj (h.report.symm.trans hreport)
    obtain rfl := Option.some.inj (h.summary.symm.trans hsummary)
    exact ⟨pipeline, items, results, place, beside, hpipeline, hitems, hne,
      ⟨htarget, hresults, ⟨total, htotal, htext⟩, rfl, hbeside, hapart, hwhole⟩⟩

end

/-- A plan that asks for all of a table. -/
def tablePlan (table : Text) : Text :=
  "\x7b\"tasks\":[\x7b\"task_id\":1,\"main_table\":\"" ++ table ++ "\"\x7d]\x7d"

/-- Services for which the first question is about another table than the rest. Their clock ticks at
each reading, and once twice. -/
def sampleServices : Services where
  router := fun _ text => .answer (.int 1) (if text.isText "q" then .real 1.0 else .real 0.5)
  model := fun _ request =>
    if request.messages.any (·.content.isText "q") then .answer (.text (tablePlan "t")) (.int 7)
    else .answer (.text (tablePlan "u")) (.int 9)
  clock := fun n => Float.ofNat (if n ≤ 2 then n else n + 1)

/-- A world in which every query has one answer, and all but `other` the same. -/
def sampleWorld : World where
  services := sampleServices
  environment := fun _ => some "key"
  order := .given
  store := ⟨[]⟩
  database :=
    { connectError := none
      replies := [("other", .table ⟨["a"], [[.text "y"]]⟩), ("*", .table ⟨["a"], [[.text "x"]]⟩)] }
  schemas := some (.record [("financial", .text "t")])
  folder := "/w"
  program := "bench"

/-- A test set of two questions. -/
def sampleData : Text :=
  "[\x7b\"db_id\":\"financial\",\"question\":\"q\",\"SQL\":\"s\"\x7d," ++
    "\x7b\"db_id\":\"financial\",\"question\":\"r\",\"SQL\":\"other\"\x7d]"

/-- The file of the test set beside that of the database. -/
def sampleFiles : Files where
  base := ["w"]
  folders := []
  contents := [(["w", "d"], Text.Utf8.bytes sampleData), (["w", "financial.sqlite"], [])]

/-- Arguments with a second file of questions that is not there. -/
def sampleArguments : List Text :=
  ["--data_path", "d", "--data_path_2", "e", "--output", "r.jsonl"]

def sampleSettings : Settings :=
  .ofOptions [("data_path", some "d"), ("data_path_2", some "e"), ("output", some "r.jsonl")]

theorem settingsOf_sample : settingsOf sampleArguments = .ok sampleSettings := by
  have hparse : CommandLine.parse parameters sampleArguments =
      .ok [("data_path", some "d"), ("data_path_2", some "e"), ("output", some "r.jsonl")] := rfl
  rw [settingsOf, hparse]
  rfl

end QueryBench.TestSet
