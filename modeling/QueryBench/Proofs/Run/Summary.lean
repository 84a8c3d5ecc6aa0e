import QueryBench.Proofs.Pipeline.Arising
import QueryBench.Proofs.Run.Resumption

/-!
# The summary that a run leaves

A run goes on behind the report it finds. If that report has a result for every item already, the
run leaves the files as they are, with a summary or without. Otherwise it adds the results that are
missing, and its summary holds the counters of all results of the report, those it found and those
it added.

Main definition: `TestSet.Summarized`. Main statements: `resultsOf_newline`, and
`finished_run_summarized` for runs.
-/
set_option autoImplicit false

namespace QueryBench.TestSet

/-! ## The results of a report -/

theorem filterMap_linesFrom (line a b : Text) :
    (Text.linesFrom line (a ++ .char '\n' :: b)).filterMap resultOf? =
      (Text.linesFrom line a).filterMap resultOf? ++ resultsOf b := by
  induction a generalizing line with
  | nil =>
    -- The line feed ends the last line of the first report, which was a line without it too.
    have hlines : Text.linesFrom line (.char '\n' :: b) =
        (line.reverse ++ [.char '\n']) :: Text.lines b := by
      rw [Text.linesFrom, if_pos rfl, List.reverse_cons]
      rfl
    rw [List.nil_append, hlines, List.filterMap_cons, resultOf?_newline]
    cases line with
    | nil => rfl
    | cons g line =>
      show _ = [(g :: line).reverse].filterMap resultOf? ++ resultsOf b
      rw [List.filterMap_cons]
      cases resultOf? (g :: line).reverse <;> rfl
  | cons g a ih =>
    rw [List.cons_append, Text.linesFrom, Text.linesFrom]
    split
    · simp only [List.filterMap_cons, ih]
      cases resultOf? (g :: line).reverse <;> rfl
    · exact ih _

/-- Reports with a line feed between them hold the results of the first, and then those of the
second. -/
theorem resultsOf_newline (a b : Text) :
    resultsOf (a ++ .char '\n' :: b) = resultsOf a ++ resultsOf b :=
  filterMap_linesFrom [] a b

theorem resultsOf_unifyNewlines (a b : Text) :
    resultsOf (Text.unifyNewlines (a ++ .char '\n' :: b)) =
      resultsOf (Text.unifyNewlines a) ++ resultsOf (Text.unifyNewlines b) := by
  obtain ⟨t, hboth, hfirst | hfirst⟩ := Text.unifyNewlines_newline a b
  · rw [hboth, resultsOf_newline, hfirst]
  · -- The first report ends in a carriage return, and the line feed is a part of its line end.
    rw [hboth, resultsOf_newline, hfirst, resultsOf_newline]
    simp [resultsOf, Text.lines, Text.linesFrom]

theorem resultsOf_reportOf {results : List Doc} (hresults : ∀ r ∈ results, Reportable r) :
    resultsOf (reportOf results) = results.map Doc.merged := by
  rw [resultsOf, lines_report, filterMap_lineOf hresults]

/-- Results that are added to a report stand behind those it has. -/
theorem resultsOf_added (raw : Text) {results : List Doc} (hresults : ∀ r ∈ results, Reportable r) :
    resultsOf (Text.unifyNewlines (raw ++ (separator (Text.unifyNewlines raw) ++ reportOf results))) =
      resultsOf (Text.unifyNewlines raw) ++ results.map Doc.merged := by
  have hadded := Text.unifyNewlines_eq (return_not_mem results)
  unfold separator
  split
  next hempty =>
    obtain rfl := Text.unifyNewlines_eq_nil.1 (List.isEmpty_iff.1 hempty)
    rw [show ([] : Text) ++ ("" ++ reportOf results) = reportOf results from rfl, hadded,
      resultsOf_reportOf hresults]
    rfl
  next =>
    rw [show ("\n" ++ reportOf results : Text) = .char '\n' :: reportOf results from rfl,
      resultsOf_unifyNewlines, hadded, resultsOf_reportOf hresults]

/-! ## The report that a run finds -/

theorem foundReport_ok {files : Files} {output earlier : Text} {place : Location}
    (h : foundReport files output = .ok earlier) (htarget : files.target output = .ok place) :
    ∃ raw, Text.Utf8.decode ((files.contents.lookup place).getD []) = .ok raw ∧
      Text.unifyNewlines raw = earlier := by
  unfold foundReport at h
  split at h
  next =>
    obtain ⟨raw, hraw, hearlier⟩ := Files.text?_of_read h
    obtain ⟨q, content, hfind, hlookup, hdecode⟩ := Files.text?_eq_some.1 hraw
    obtain rfl := Files.eq_of_find_of_target hfind htarget
    exact ⟨raw, by rw [hlookup]; exact hdecode, hearlier⟩
  next hmissing =>
    cases h
    refine ⟨[], ?_, rfl⟩
    rw [Files.lookup_eq_none htarget (by simpa using hmissing)]
    rfl

/-! ## Runs -/

/-- What a run leaves that found the report `earlier`, with results for the first items alone, and
added those of the others: `report`, as it stood when the summary was written, and `summary`. -/
structure Summarized (pipeline : Pipeline) (hints : Bool) (output : Text) (items : List Doc)
    (earlier report summary : Text) (after : Files) : Prop where
  added : ∃ results,
    List.Forall₂ (Reported pipeline.Arises hints) (items.drop (resultsOf earlier).length) results ∧
      resultsOf report = resultsOf earlier ++ results.map Doc.merged
  counted : ∃ total, (resultsOf report).foldlM Tally.count Tally.start = .ok total ∧
    Json.writeChecked summaryStyle total = .ok summary
  written : ∃ files : Files, files.read output = .ok report ∧
    files.write (summaryPath output) summary = .ok after
  summary : after.text? (summaryPath output) = some summary
  report : after.find (summaryPath output) ≠ after.find output → after.read output = .ok report

section
variable {pipeline : Pipeline} {hints : Bool} {output : Text}

/-- Results that are written behind a report are read behind it, and so the summary counts what is
read. -/
theorem summarized_of_write {files after : Files} {place : Location} {content : List UInt8}
    {raw summary : Text} {items results : List Doc} {total : Doc}
    (htarget : files.target output = .ok place) (hraw : Text.Utf8.decode content = .ok raw)
    (hresults : List.Forall₂ (Reported pipeline.Arises hints)
      (items.drop (resultsOf (Text.unifyNewlines raw)).length) results)
    (htotal : (resultsOf (Text.unifyNewlines raw) ++ results).foldlM Tally.count Tally.start =
      .ok total)
    (hsummary : Json.writeChecked summaryStyle total = .ok summary)
    (hwrite : (files.put place (content ++ Text.Utf8.bytes
      (separator (Text.unifyNewlines raw) ++ reportOf results))).write (summaryPath output) summary =
        .ok after) :
    ∃ report,
      Summarized pipeline hints output items (Text.unifyNewlines raw) report summary after := by
  have hadded := resultsOf_added raw (Reported.forall_reportable hresults)
  have hmerged := foldlM_merged (Reported.forall_mem hresults) fun _ _ harises =>
    harises.merged_tokens
  have hdecode := Text.Utf8.decode_append hraw (List.forall_mem_append.2
    ⟨whole_separator (Text.unifyNewlines raw), Reported.whole hresults⟩)
  have htext := Files.text?_eq_some.2
    ⟨place, _, Files.find_put_self htarget _, Files.lookup_put_self files place _, hdecode⟩
  obtain ⟨beside, hbeside, hwhole, rfl⟩ := Files.write_eq_ok.1 hwrite
  have hfree := Files.free_of_target hbeside
  refine ⟨_, ⟨results, hresults, hadded⟩, ⟨total, ?_, hsummary⟩,
    ⟨_, Files.read_of_text? htext, hwrite⟩, ?_, fun hapart => ?_⟩
  · -- What is read of a result may differ from the result, but it counts alike.
    rw [hadded, List.foldlM_append]
    simp only [hmerged]
    rw [← List.foldlM_append, htotal]
  · exact Files.text?_put_self hwhole hbeside
  · refine Files.read_of_text? (Files.text?_put hfree _ htext fun hsame => hapart ?_)
    rw [Files.find_put hfree _ hsame, Files.find_put_self hbeside]

/-- A run behind a report changes nothing if that has a result for every item, and otherwise leaves
the summary. -/
theorem runRemaining_summarized {items : List Doc} {u : Unit} {w w' : Workspace}
    (h : runIn (runRemaining pipeline hints output items) w = (.ok u, w')) :
    ∃ earlier, foundReport w.files output = .ok earlier ∧
      (items.length ≤ (resultsOf earlier).length ∧ w'.files = w.files ∨
        (resultsOf earlier).length < items.length ∧ ∃ report summary,
          Summarized pipeline hints output items earlier report summary w'.files) := by
  obtain ⟨earlier, hfound, hleft⟩ :=
    runRemaining_adds (fun q session => pipeline.always_process q session) h
  refine ⟨earlier, hfound, hleft.imp_right ?_⟩
  rintro ⟨hfew, place, results, total, summary, htarget, hresults, htotal, hsummary, hwrite⟩
  obtain ⟨raw, hraw, rfl⟩ := foundReport_ok hfound htarget
  obtain ⟨report, hreport⟩ := summarized_of_write htarget hraw hresults htotal hsummary hwrite
  exact ⟨hfew, report, summary, hreport⟩

end

/-- A run of a test set with items that ends well found a report with results for all of them and
left the files as they were, or the summary it leaves holds the counters of all results of the
report. -/
theorem finished_run_summarized {world : World} {arguments : List Text} {settings : Settings}
    {output : Text} {w after : Workspace} (hsettings : settingsOf arguments = .ok settings)
    (houtput : settings.output = some output)
    (hrun : runIn (run world arguments) w = (.ok (), after)) {items : List Doc}
    (hitems : chosen settings w.files = .ok items) (hne : items ≠ []) :
    ∃ earlier, foundReport w.files output = .ok earlier ∧
      (items.length ≤ (resultsOf earlier).length ∧ after.files = w.files ∨
        (resultsOf earlier).length < items.length ∧ ∃ pipeline report summary,
          Pipeline.started world (settings.model.getD "") = .ok pipeline ∧
          Summarized pipeline settings.hints output items earlier report summary after.files) := by
  rcases run_ok hsettings houtput hrun with ⟨-, hnone⟩ | ⟨pipeline, items', w', hpipeline, hitems',
    -, hfiles, hremaining⟩
  · exact absurd (hnone items hitems) hne
  · obtain rfl := Except.ok.inj (hitems'.symm.trans hitems)
    obtain ⟨earlier, hfound, hleft⟩ := runRemaining_summarized hremaining
    rw [hfiles] at hfound hleft
    refine ⟨earlier, hfound, hleft.imp_right ?_⟩
    rintro ⟨hfew, report, summary, hsummarized⟩
    exact ⟨hfew, pipeline, report, summary, hpipeline, hsummarized⟩

/-- A line that counts as a filtered question. -/
def sampleLine : Text :=
  "\x7b\"status\": \"filtered_by_router\"\x7d\n"

/-- The files of the small test set with a report of one result and the beginning of another. -/
def sampleTorn : Files :=
  sampleFiles.put ["w", "r.jsonl"] (Text.Utf8.bytes (sampleLine ++ sampleLine.take 12))

theorem sampleTorn_run :
    (runIn (run sampleWorld sampleArguments) ⟨.start, sampleTorn⟩).1.toOption = some () ∧
      (chosen sampleSettings sampleTorn).toOption.map List.length = some 2 ∧
      (foundReport sampleTorn "r.jsonl").toOption.map (fun s => (resultsOf s).length) = some 1 := by
  decide +kernel

theorem finished_run_summarized_torn :
    ∃ after items earlier, runIn (run sampleWorld sampleArguments) ⟨.start, sampleTorn⟩ =
        (.ok (), after) ∧
      chosen sampleSettings sampleTorn = .ok items ∧ items.length = 2 ∧
      foundReport sampleTorn "r.jsonl" = .ok earlier ∧ (resultsOf earlier).length = 1 ∧
      ∃ pipeline report summary,
        Pipeline.started sampleWorld (sampleSettings.model.getD "") = .ok pipeline ∧
        Summarized pipeline sampleSettings.hints "r.jsonl" items earlier report summary
          after.files := by
  obtain ⟨hok, hchosen, hfound⟩ := sampleTorn_run
  obtain ⟨items, hitems, htwo⟩ := Option.map_eq_some_iff.1 hchosen
  obtain ⟨earlier, hearlier, hone⟩ := Option.map_eq_some_iff.1 hfound
  rcases hrun : runIn (run sampleWorld sampleArguments) ⟨.start, sampleTorn⟩ with ⟨r, after⟩
  rw [hrun] at hok
  obtain rfl : r = .ok () := ok_of_toOption hok
  obtain ⟨found, hread, hleft⟩ := finished_run_summarized settingsOf_sample rfl hrun
    (ok_of_toOption hitems) (List.ne_nil_of_length_pos (by omega))
  obtain rfl := Except.ok.inj (hread.symm.trans (ok_of_toOption hearlier))
  rcases hleft with ⟨hmany, -⟩ | ⟨-, hsummarized⟩
  · omega
  · exact ⟨after, items, found, rfl, ok_of_toOption hitems, htwo, hread, hone, hsummarized⟩

/-- The files of the small test set with a report of two results, and no summary beside it. -/
def sampleComplete : Files :=
  sampleFiles.put ["w", "r.jsonl"] (Text.Utf8.bytes (sampleLine ++ sampleLine))

theorem sampleComplete_run :
    (runIn (run sampleWorld sampleArguments) ⟨.start, sampleComplete⟩).1.toOption = some () ∧
      (runIn (run sampleWorld sampleArguments) ⟨.start, sampleComplete⟩).2.files.exist
        (summaryPath "r.jsonl") = false ∧
      (chosen sampleSettings sampleComplete).toOption.map List.length = some 2 := by
  decide +kernel

/-- A run that finds a whole report ends well without a summary. -/
theorem finished_run_unsummarized :
    ∃ after items, runIn (run sampleWorld sampleArguments) ⟨.start, sampleComplete⟩ =
        (.ok (), after) ∧
      chosen sampleSettings sampleComplete = .ok items ∧ items.length = 2 ∧
      after.files.exist (summaryPath "r.jsonl") = false := by
  obtain ⟨hok, hmissing, hchosen⟩ := sampleComplete_run
  obtain ⟨items, hitems, htwo⟩ := Option.map_eq_some_iff.1 hchosen
  rcases hrun : runIn (run sampleWorld sampleArguments) ⟨.start, sampleComplete⟩ with ⟨r, after⟩
  rw [hrun] at hok hmissing
  obtain rfl : r = .ok () := ok_of_toOption hok
  exact ⟨after, items, rfl, ok_of_toOption hitems, htwo, hmissing⟩

end QueryBench.TestSet
