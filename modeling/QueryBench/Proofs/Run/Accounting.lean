import QueryBench.Proofs.Json.Indented
import QueryBench.Proofs.Run.Idempotence
import QueryBench.Proofs.Tally.Headings

/-!
# The accounts of a run

A run writes a line for every result of a report, counts it once, and writes its line a second time
if it failed. So the counters that it leaves behind can be told from the lines that it leaves behind.
Only a result without a plan that says that it was completed is an exception: it counts as completed,
although it failed.

Main definitions: `Reprocess.resultsOf`, `Reprocess.Reports`. Main statement:
`Reprocess.reprocessing_accounted`.
-/
set_option autoImplicit false

namespace QueryBench

/-! ## Statistics -/

namespace Tally

theorem field_of_counter {tally : Doc} {name : Text} {n : Int} (h : counter tally name = some n) :
    tally.field name = .ok (.int n) := by
  obtain ⟨fields, rfl, hfind⟩ := find?_of_counter h
  rw [Doc.field, hfind]

theorem isFlat_start : IsFlat start := by
  refine ⟨_, rfl, rfl, ?_⟩
  simp only [List.forall_mem_cons]
  have hzero : (Doc.int 0).IsNumber := .inl ⟨0, rfl⟩
  exact ⟨hzero, hzero, hzero, hzero, hzero, hzero, hzero, hzero, hzero, hzero, by simp⟩

/-- Counters that are written are read back. -/
theorem read_flat {tally : Doc} (hflat : IsFlat tally) (hshort : tally.Short) :
    Json.read (Json.write TestSet.summaryStyle tally) = .ok tally := by
  obtain ⟨fields, rfl, hkeys, hnumbers⟩ := hflat
  have hascii : ∀ name ∈ names, Json.writeText true name = Json.writeText false name := by decide
  have hnodup : (fields.map Prod.fst).Nodup := by
    rw [hkeys]
    decide
  have hvalue (f : Text × Doc) (hf : f ∈ fields) :
      (∀ depth, Json.writeAt TestSet.summaryStyle depth f.2 = Json.lineText f.2) ∧
        f.2.merged = f.2 ∧ f.2.depth = 0 := by
    obtain ⟨n, hn⟩ | ⟨x, hx⟩ := hnumbers f hf
    · rw [hn]
      exact ⟨fun _ => rfl, rfl, rfl⟩
    · rw [hx]
      exact ⟨fun _ => rfl, rfl, rfl⟩
  have hunstyled (f : Text × Doc) (hf : f ∈ fields) : Json.Unstyled TestSet.summaryStyle f :=
    ⟨hascii f.1 (hkeys ▸ List.mem_map_of_mem hf), (hvalue f hf).1⟩
  have hmerged : (Doc.record fields).merged = .record fields := by
    rw [Doc.merged_record hnodup, List.map_congr_left fun f hf => by rw [(hvalue f hf).2.1],
      List.map_id']
  have hdepth : (Doc.record fields).depth ≤ Json.depthLimit :=
    (Doc.depth_record fun f hf => Nat.le_of_eq (hvalue f hf).2.2).trans (by decide)
  have hne : fields ≠ [] := by
    rintro rfl
    cases hkeys
  rw [Json.read_write_broken rfl hne hunstyled hshort hdepth, hmerged]

end Tally

namespace Reprocess
variable {world : World}

/-! ## Lines and results -/

/-- The result that a line gives: one that is blank or no document gives none. -/
def parsed? (line : Text) : Option Doc :=
  if Text.isBlankText line then none else (Json.read line).toOption

/-- The results in a report, without the lines that cannot be read. -/
def resultsOf (report : Text) : List Doc :=
  (Text.lines (Text.unifyNewlines report)).filterMap parsed?

/-- A line is that of what a result is made into: all of it but its status and its steps is kept. -/
def Reports (world : World) (result : Doc) (line : Text) : Prop :=
  ∃ revision, Yields (revise world result) (.ok revision) ∧ line = reportLine revision.result ∧
    ∀ key : Text, key ≠ "status" → key ≠ "steps" → revision.result.field key = result.field key

theorem reports_of_revised {result : Doc} {revision : Revision}
    (h : revised world result = .ok revision) :
    Reports world result (reportLine revision.result) := by
  refine ⟨revision, h ▸ yields_revised world result, rfl, fun key hstatus hsteps => ?_⟩
  obtain ⟨-, ⟨hkept, -⟩ | ⟨fields, steps, plan, tokens, rfl, -, rfl⟩⟩ := revised_cases h
  · rw [hkept]
  · unfold redone renewed
    dsimp only
    rw [Doc.field, find?_renewed, if_neg hsteps, if_neg hstatus, Doc.field]

theorem HandledLines.results {tally total : Doc} {lines : List Text} {revisions : List Revision}
    (h : HandledLines world tally lines revisions total) :
    List.Forall₂ (fun result revision => revised world result = .ok revision)
      (lines.filterMap parsed?) revisions := by
  induction h with
  | nil => exact .nil
  | @skip _ _ line _ _ hline _ ih =>
    have hnone : parsed? line = none := by
      unfold parsed?
      by_cases hblank : Text.isBlankText line = true
      · rw [if_pos hblank]
      · obtain ⟨description, hread⟩ := hline.resolve_left hblank
        rw [if_neg hblank, hread]
        rfl
    rwa [List.filterMap_cons_none hnone]
  | @cons _ _ _ result line _ _ _ hblank hread hfirst _ ih =>
    have hsome : parsed? line = some result := by
      rw [parsed?, hblank, if_neg Bool.false_ne_true, hread]
      rfl
    rw [List.filterMap_cons_some hsome]
    exact .cons ((yields_revised world result).eq hfirst.revised) ih

theorem errorsOf_eq (revisions : List Revision) :
    errorsOf revisions =
      TestSet.reportOf ((revisions.filter Revision.failed).map Revision.result) := by
  induction revisions with
  | nil => rfl
  | cons revision rest ih =>
    have hrest : errorsOf (revision :: rest) =
        (if revision.failed then reportLine revision.result else []) ++ errorsOf rest := rfl
    rw [hrest, ih, List.filter_cons]
    cases revision.failed with
    | true => rfl
    | false => rfl

/-! ## Counters -/

theorem HandledLines.raised {tally total : Doc} {lines : List Text} {revisions : List Revision}
    (h : HandledLines world tally lines revisions total) :
    ∃ all, List.Forall₂ (fun revision keys => Tally.headings revision.result = .ok keys)
        revisions all ∧
      Tally.Raised (all.flatMap fun keys => Text.ofString "total" :: keys) tally total := by
  induction h with
  | nil tally => exact ⟨[], .nil, .refl tally⟩
  | skip _ _ ih => exact ih
  | cons _ _ hfirst _ ih =>
    obtain ⟨keys, hkeys, hraised⟩ := Tally.raised_of_count hfirst.counted
    obtain ⟨all, hall, hrest⟩ := ih
    exact ⟨keys :: all, .cons hkeys hall, hraised.append hrest⟩

theorem member_renewed (fields steps : List (Text × Doc)) (status : Text) (sql : SqlStep)
    (check : Doc) :
    (renewed fields steps status sql check).member "status" = .ok (.text status) := by
  show Except.ok ((Doc.find? _ _).getD .null) = _
  rw [find?_renewed, if_neg (by decide), if_pos rfl]
  rfl

theorem headings_renewed (fields steps : List (Text × Doc)) (sql : SqlStep) {check name : Doc}
    (hname : check.member "match_type" = .ok name) :
    Tally.headings (renewed fields steps "completed" sql check) =
      .ok (Tally.matchHeadings name) := by
  have hfind : Doc.find? (Doc.put (Doc.put steps "compiler" sql.toDoc) "evaluator" check)
      "evaluator" = some check := by
    rw [Doc.find?_put, if_pos rfl]
  have hsteps : (renewed fields steps "completed" sql check).field "steps" =
      .ok (.record (Doc.put (Doc.put steps "compiler" sql.toDoc) "evaluator" check)) := by
    rw [renewed, Doc.field, find?_renewed, if_pos rfl]
  have hhas : Tally.hasCheck (renewed fields steps "completed" sql check) = .ok true := by
    have hthere : (renewed fields steps "completed" sql check).has "steps" = .ok true := by
      rw [renewed, Doc.has, find?_renewed, if_pos rfl]
      rfl
    rw [Tally.hasCheck, hthere, ok_bind, if_pos rfl, hsteps, ok_bind, Doc.has, hfind]
    rfl
  rw [Tally.headings, member_renewed, ok_bind, if_neg (by decide), if_pos (by decide), hhas,
    ok_bind, if_pos rfl, hsteps, ok_bind, Doc.field, hfind]
  show check.member "match_type" >>= _ = _
  rw [hname]
  rfl

theorem failures_matchHeadings (name : Doc) :
    (Tally.matchHeadings name).count (Text.ofString "wrong") +
      (Tally.matchHeadings name).count (Text.ofString "errors") =
      (!name.isOneOf Match.successes).toNat := by
  have hkinds : ∀ keys ∈ Tally.matchKinds,
      keys.count (Text.ofString "wrong") + keys.count (Text.ofString "errors") = 0 := by decide
  obtain ⟨hsuccess, hmem⟩ | ⟨hother, hwrong⟩ := Tally.matchHeadings_cases name
  · rw [hsuccess]
    exact hkinds _ hmem
  · rw [hother, hwrong]
    decide

theorem headings_failed {result : Doc} {revision : Revision}
    (h : revised world result = .ok revision) {keys : List Text}
    (hkeys : Tally.headings revision.result = .ok keys)
    (hcompleted : Planless result → result.member "status" ≠ .ok (.text "completed")) :
    keys.count (Text.ofString "wrong") + keys.count (Text.ofString "errors") =
      revision.failed.toNat := by
  obtain ⟨-, ⟨hkept, hreason⟩ | ⟨fields, steps, plan, tokens, rfl, -, rfl⟩⟩ := revised_cases h
  · rw [hkept] at hkeys
    unfold Tally.headings at hkeys
    generalize revision.failed = failed at hreason ⊢
    cases hreason with
    | filtered hstatus hfiltered =>
      rw [hstatus, ok_bind, if_pos hfiltered] at hkeys
      cases hkeys
      decide
    | @planless status hstatus hunfiltered hplan =>
      have hother : status.isText "completed" = false := by
        cases status with
        | text s =>
          refine beq_false_of_ne ?_
          rintro rfl
          exact hcompleted hplan hstatus
        | _ => rfl
      rw [hstatus, ok_bind, hunfiltered, if_neg Bool.false_ne_true, hother,
        if_neg Bool.false_ne_true] at hkeys
      cases hkeys
      decide
  · obtain ⟨name, hname⟩ := exists_match world.database fields tokens (sqlAgain world.order world.store plan)
    unfold redone at hkeys ⊢
    dsimp only at hkeys ⊢
    rw [hname]
    generalize checkOf world.database fields tokens (sqlAgain world.order world.store plan) = made
      at hname hkeys ⊢
    obtain ⟨check, completed⟩ := made
    cases completed with
    | true =>
      cases (headings_renewed fields steps _ hname).symm.trans hkeys
      exact failures_matchHeadings (.text name)
    | false =>
      rw [Tally.headings, if_neg Bool.false_ne_true, member_renewed, ok_bind, if_neg (by decide),
        if_neg (by decide)] at hkeys
      cases hkeys
      show _ = Bool.toNat true
      decide

theorem length_failed {results : List Doc} {revisions : List Revision} {all : List (List Text)}
    (hresults : List.Forall₂ (fun result revision => revised world result = .ok revision)
      results revisions)
    (hall : List.Forall₂ (fun revision keys => Tally.headings revision.result = .ok keys)
      revisions all)
    (hcompleted : ∀ result ∈ results,
      Planless result → result.member "status" ≠ .ok (.text "completed")) :
    (revisions.filter Revision.failed).length =
      Tally.occurrences all "wrong" + Tally.occurrences all "errors" := by
  induction hresults generalizing all with
  | nil =>
    cases hall
    rfl
  | @cons result revision _ _ hrevised _ ih =>
    cases hall with
    | @cons _ keys _ all hkeys hall =>
      obtain ⟨hfirst, hrest⟩ := List.forall_mem_cons.1 hcompleted
      have hone := headings_failed hrevised hkeys hfirst
      have hbehind := ih hall hrest
      rw [Tally.occurrences_cons, Tally.occurrences_cons, List.count_cons_of_ne (by decide),
        List.count_cons_of_ne (by decide), List.filter_cons]
      cases hfailed : revision.failed with
      | true =>
        rw [hfailed, Bool.toNat_true] at hone
        rw [if_pos rfl, List.length_cons]
        omega
      | false =>
        rw [hfailed, Bool.toNat_false] at hone
        rw [if_neg Bool.false_ne_true]
        omega

/-! ## Whole runs -/

theorem lines_outputOf (revisions : List Revision) :
    Text.lines (outputOf revisions) = revisions.map fun r => reportLine r.result := by
  rw [outputOf_eq, TestSet.lines_report, List.map_map]
  rfl

theorem lines_errorsOf (revisions : List Revision) :
    Text.lines (errorsOf revisions) =
      (revisions.filter Revision.failed).map fun r => reportLine r.result := by
  rw [errorsOf_eq, TestSet.lines_report, List.map_map]
  rfl

/-- A run whose four files are different ones left the lines of what it made, and its counters. -/
theorem run_left {arguments : List Text} {paths : Paths}
    (hpaths : settingsOf arguments = .ok paths.settings)
    {w after : Workspace} (hrun : runIn (run world arguments) w = (.ok (), after))
    {input output errors statistics : Location} (hinput : w.files.find paths.input = .ok input)
    (houtput : after.files.find paths.output = .ok output)
    (herrors : after.files.find paths.errors = .ok errors)
    (hstatistics : after.files.find paths.statistics = .ok statistics)
    (hapart : [input, output, errors, statistics].Nodup) :
    ∃ given revisions total, w.files.text? paths.input = some given ∧
      HandledLines world Tally.start (Text.lines (Text.unifyNewlines given)) revisions total ∧
      after.files.text? paths.output = some (outputOf revisions) ∧
      after.files.text? paths.errors = some (errorsOf revisions) ∧ total.Short ∧
      after.files.text? paths.statistics = some (Json.write TestSet.summaryStyle total) := by
  have hexist : w.files.exist paths.input = true := by
    rw [Files.exist, hinput]
    rfl
  obtain ⟨_, _, _, text, revisions, total, texts, hran⟩ := run_ok hpaths hexist hrun
  obtain ⟨ho, he, hs⟩ := hran.places
  cases houtput.symm.trans ho
  cases herrors.symm.trans he
  cases hstatistics.symm.trans hs
  obtain ⟨given, made, hready, rfl⟩ := hran.ready hinput hapart
  have hne : errors ≠ statistics := by
    simp only [List.nodup_cons, List.mem_cons, not_or] at hapart
    exact hapart.2.2.1.1
  obtain ⟨left, hends, hsummary, hreport, hfailures⟩ :=
    reprocess_lines hready hran.handled hran.pieces hran.whole
  obtain ⟨session, hfirst⟩ := run_ends hpaths hready.input hends w.session
  cases hrun.symm.trans hfirst
  obtain ⟨hshort, hflatten⟩ := Json.pieced TestSet.summaryStyle total 0 [] texts hran.pieces
  exact ⟨given, revisions, total, hready.input, hran.handled, hreport, hfailures hne, hshort,
    hsummary.trans (congrArg some hflatten)⟩

/-- The accounts of a run that ended well, from the files that it left behind. -/
theorem reprocessing_accounted {arguments : List Text} {paths : Paths}
    (hpaths : settingsOf arguments = .ok paths.settings)
    {w after : Workspace} (hrun : runIn (run world arguments) w = (.ok (), after))
    {input output errors statistics : Location} (hinput : w.files.find paths.input = .ok input)
    (houtput : after.files.find paths.output = .ok output)
    (herrors : after.files.find paths.errors = .ok errors)
    (hstatistics : after.files.find paths.statistics = .ok statistics)
    (hapart : [input, output, errors, statistics].Nodup) :
    ∃ (given report failures summary : Text) (stats : Doc) (count : Text → Nat),
      w.files.text? paths.input = some given ∧ after.files.text? paths.output = some report ∧
      after.files.text? paths.errors = some failures ∧
      after.files.text? paths.statistics = some summary ∧ Json.read summary = .ok stats ∧
      List.Forall₂ (Reports world) (resultsOf given) (Text.lines report) ∧
      (∀ name ∈ Tally.resultNames, stats.field name = .ok (.int (count name))) ∧
      count "total" = (Text.lines report).length ∧ Tally.AddsUp count ∧
      (Text.lines failures).Sublist (Text.lines report) ∧
      ((∀ result ∈ resultsOf given,
          Planless result → result.member "status" ≠ .ok (.text "completed")) →
        (Text.lines failures).length = count "wrong" + count "errors") := by
  obtain ⟨given, revisions, stats, hgiven, hhandled, hreport, hfailures, hshort, hsummary⟩ :=
    run_left hpaths hrun hinput houtput herrors hstatistics hapart
  have hresults : List.Forall₂ _ (resultsOf given) revisions := hhandled.results
  obtain ⟨all, hall, hraised⟩ := hhandled.raised
  have hkinds : ∀ keys ∈ all, keys ∈ Tally.kinds :=
    forall_mem_of_forall₂ hall fun _ _ _ hkeys => Tally.headings_mem hkeys
  have hzero : ∀ name ∈ Tally.resultNames, Tally.counter Tally.start name = some 0 := by decide
  refine ⟨given, outputOf revisions, errorsOf revisions, Json.write TestSet.summaryStyle stats,
    stats, Tally.occurrences all, hgiven, hreport, hfailures, hsummary,
    Tally.read_flat (hraised.flat Tally.isFlat_start) hshort, ?_, fun name hname => ?_, ?_,
    Tally.addsUp_occurrences hkinds, ?_, fun hcompleted => ?_⟩
  · rw [lines_outputOf, List.forall₂_map_right_iff]
    exact hresults.imp fun _ _ hrevised => reports_of_revised hrevised
  · have hcounter := hraised.counter name hname 0 (hzero name hname)
    rw [Int.zero_add] at hcounter
    exact Tally.field_of_counter hcounter
  · rw [lines_outputOf, List.length_map, Tally.occurrences_total hkinds, hall.length_eq]
  · rw [lines_outputOf, lines_errorsOf]
    exact List.filter_sublist.map _
  · rw [lines_errorsOf, List.length_map]
    exact length_failed hresults hall hcompleted

/-- A result that was filtered, a line that is none, a blank one, a result without a plan, and one
whose plan has no task. -/
def unevenReport : Text :=
  "\x7b\"status\": \"filtered_by_router\"\x7d\nno result\n \n\x7b\"status\": \"error\"\x7d\n" ++
    "\x7b\"steps\": \x7b\"decomposer\": \x7b\"status\": \"success\", " ++
    "\"json_plan\": \x7b\"tasks\": []\x7d\x7d\x7d\x7d\n"

def unevenFiles : Files :=
  TestSet.sampleFiles.put sampleInput (Text.Utf8.bytes unevenReport)

theorem unevenRun_left :
    (runIn (run TestSet.sampleWorld sampleAgain) ⟨.start, unevenFiles⟩).1.toOption = some () ∧
    ([samplePaths.output, samplePaths.errors, samplePaths.statistics].map fun path =>
      ((runIn (run TestSet.sampleWorld sampleAgain)
        ⟨.start, unevenFiles⟩).2.files.find path).toOption) =
      [some sampleOutput, some sampleErrors, some sampleStatistics] ∧
    ([samplePaths.output, samplePaths.errors].map fun path =>
      ((runIn (run TestSet.sampleWorld sampleAgain) ⟨.start, unevenFiles⟩).2.files.text? path).map
        fun text => (Text.lines text).length) = [some 3, some 2] ∧
    unevenFiles.text? samplePaths.input = some unevenReport ∧
    ∀ result ∈ resultsOf unevenReport,
      (result.member "status").toOption.any (·.isText "completed") = false := by
  decide +kernel

theorem reprocessing_accounted_uneven : ∃ after report failures summary stats count,
    runIn (run TestSet.sampleWorld sampleAgain) ⟨.start, unevenFiles⟩ = (.ok (), after) ∧
    after.files.text? samplePaths.output = some report ∧ (Text.lines report).length = 3 ∧
    after.files.text? samplePaths.errors = some failures ∧ (Text.lines failures).length = 2 ∧
    after.files.text? samplePaths.statistics = some summary ∧ Json.read summary = .ok stats ∧
    stats.field "total" = .ok (.int 3) ∧ Tally.AddsUp count ∧
    stats.field "wrong" = .ok (.int (count "wrong")) ∧
    stats.field "errors" = .ok (.int (count "errors")) ∧ count "wrong" + count "errors" = 2 := by
  have hinput : unevenFiles.find samplePaths.input = .ok sampleInput := rfl
  obtain ⟨hok, hplaces, hlines, hgiven, huncompleted⟩ := unevenRun_left
  rcases hrun : runIn (run TestSet.sampleWorld sampleAgain) ⟨.start, unevenFiles⟩ with ⟨r, after⟩
  rw [hrun] at hok hplaces hlines
  obtain rfl : r = .ok () := ok_of_toOption hok
  simp only [List.map_cons, List.map_nil, List.cons.injEq] at hplaces hlines
  obtain ⟨houtput, herrors, hstatistics, -⟩ := hplaces
  obtain ⟨given, report, failures, summary, stats, count, hread, hreport, hfailures, hsummary,
    hstats, -, hcounters, htotal, haddsUp, -, hwrong⟩ :=
    reprocessing_accounted settingsOf_sampleAgain hrun hinput (ok_of_toOption houtput)
      (ok_of_toOption herrors) (ok_of_toOption hstatistics) (by decide)
  cases hgiven.symm.trans hread
  rw [hreport, hfailures] at hlines
  obtain ⟨hthree, htwo, -⟩ := hlines
  have hthree : (Text.lines report).length = 3 := Option.some.inj hthree
  have htwo : (Text.lines failures).length = 2 := Option.some.inj htwo
  have hsum := hwrong fun result hresult _ hstatus => by
    have hfalse := huncompleted result hresult
    rw [hstatus] at hfalse
    exact absurd hfalse (by decide)
  have hthreeTotal := hcounters "total" (by decide)
  rw [htotal, hthree] at hthreeTotal
  exact ⟨after, report, failures, summary, stats, count, rfl, hreport, hthree, hfailures, htwo,
    hsummary, hstats, hthreeTotal, haddsUp, hcounters "wrong" (by decide),
    hcounters "errors" (by decide), hsum.symm.trans htwo⟩

end Reprocess

end QueryBench
