import QueryBench.Proofs.Run.Reprocessing

/-!
# Reports made anew twice

What is made anew is made anew into itself: a result that was kept is kept again, and one that was
compiled and evaluated has the same plan as before, and so the same statement and the same check. The
line of such a result gives it back, so a report that was made anew does not change any more.

Main definitions: `Reprocess.Planned`, a result whose plan is compiled, and `Database.Fits`. Main
statements: `Reprocess.revised_revised` and `Reprocess.reprocessing_idempotent`.
-/
set_option autoImplicit false

namespace QueryBench

namespace Reprocess

/-! ## Results made anew -/

/-- A result whose plan is compiled: its fields and steps, the plan, and the tokens that it took. -/
structure Planned (fields steps : List (Text × Doc)) (plan tokens : Doc) : Prop where
  unfiltered : ((Doc.find? fields "status").getD .null).isText "filtered_by_router" = false
  stepped : (Doc.find? fields "steps").getD (.record []) = .record steps
  decomposed : ∃ parts, (Doc.find? steps "decomposer").getD (.record []) = .record parts ∧
    (Doc.find? parts "json_plan").getD .null = plan ∧
    ((Doc.find? parts "status").getD .null).isText "success" = true ∧
    (Doc.find? parts "token_stats").getD (.record []) = tokens
  filled : plan.isVoid = false

/-- The step that makes the plan of a result gave none, or did not succeed. -/
def Planless (result : Doc) : Prop :=
  ∃ steps decomposer plan status, result.memberD "steps" (.record []) = .ok steps ∧
    steps.memberD "decomposer" (.record []) = .ok decomposer ∧
    decomposer.member "json_plan" = .ok plan ∧ decomposer.member "status" = .ok status ∧
    (plan.isVoid = true ∨ status.isText "success" = false)

/-- Why a result is kept as it is, and whether it counts as failed. -/
inductive Kept (result : Doc) : Bool → Prop where
  | filtered {status : Doc} (hstatus : result.member "status" = .ok status)
      (hfiltered : status.isText "filtered_by_router" = true) : Kept result false
  | planless {status : Doc} (hstatus : result.member "status" = .ok status)
      (hunfiltered : status.isText "filtered_by_router" = false) (hplan : Planless result) :
      Kept result true

section
variable {world : World} {fields steps : List (Text × Doc)} {plan tokens : Doc}

theorem memberD_record (fields : List (Text × Doc)) (key : Text) (default : Doc) :
    (Doc.record fields).memberD key default = .ok ((Doc.find? fields key).getD default) :=
  rfl

theorem Planned.revised (world : World) (h : Planned fields steps plan tokens) :
    revised world (.record fields) = .ok (redone world fields steps plan tokens) := by
  obtain ⟨parts, hparts, hplan, hsuccess, rfl⟩ := h.decomposed
  unfold Reprocess.revised Doc.member
  rw [memberD_record, ok_bind, memberD_record, ok_bind, h.unfiltered, if_neg Bool.false_ne_true,
    h.stepped, memberD_record, ok_bind, hparts, memberD_record, ok_bind, memberD_record, ok_bind,
    hplan, hsuccess, h.filled, if_neg (by decide)]
  rfl

/-- A result is kept as it is, or its plan is compiled. -/
theorem revised_cases {result : Doc} {revision : Revision} (h : revised world result = .ok revision) :
    (∃ fields, result = .record fields) ∧ (revision.result = result ∧ Kept result revision.failed ∨
      ∃ fields steps plan tokens, result = .record fields ∧ Planned fields steps plan tokens ∧
        revision = redone world fields steps plan tokens) := by
  unfold revised at h
  obtain ⟨status, hstatus, hstepping⟩ := ok_of_bind h
  obtain ⟨fields, rfl⟩ := record_of_memberD hstatus
  refine ⟨⟨fields, rfl⟩, ?_⟩
  obtain ⟨inner, hinner, hchoosing⟩ := ok_of_bind hstepping
  cases hstatus
  cases hinner
  split at hchoosing
  next hfiltered =>
    cases hchoosing
    exact .inl ⟨rfl, .filtered rfl hfiltered⟩
  next hunfiltered =>
    have hunfiltered := Bool.eq_false_iff.2 hunfiltered
    obtain ⟨decomposer, hdecomposer, hplanning⟩ := ok_of_bind hchoosing
    obtain ⟨steps, hsteps⟩ := record_of_memberD hdecomposer
    rw [hsteps] at hdecomposer
    cases hdecomposer
    obtain ⟨plan, hplan, hjudging⟩ := ok_of_bind hplanning
    obtain ⟨parts, hparts⟩ := record_of_memberD hplan
    rw [hparts] at hplan
    cases hplan
    obtain ⟨success, hsuccess, hjudging⟩ := ok_of_bind hjudging
    rw [hparts] at hsuccess
    cases hsuccess
    split at hjudging
    next hbad =>
      cases hjudging
      rw [Bool.or_eq_true, Bool.not_eq_true'] at hbad
      refine .inl ⟨rfl, .planless rfl hunfiltered ⟨.record steps, .record parts, _, _, ?_, ?_, rfl, rfl,
        hbad⟩⟩
      · exact congrArg Except.ok hsteps
      · exact congrArg Except.ok hparts
    next hgood =>
      simp only [Bool.or_eq_true, Bool.not_eq_true', not_or, Bool.not_eq_true,
        Bool.not_eq_false] at hgood
      rw [hsteps, hparts] at hjudging
      cases hjudging
      exact .inr ⟨fields, steps, _, _, rfl,
        ⟨hunfiltered, hsteps, ⟨parts, hparts, rfl, hgood.2, rfl⟩, hgood.1⟩, rfl⟩

theorem find?_renewed (fields steps : List (Text × Doc)) (status : Text) (name : Text) :
    Doc.find? (Doc.put (Doc.put fields "status" (.text status)) "steps" (.record steps)) name =
      if name = "steps" then some (.record steps)
      else if name = "status" then some (.text status) else Doc.find? fields name := by
  rw [Doc.find?_put, Doc.find?_put]

theorem Planned.renewed (h : Planned fields steps plan tokens) {status : Text}
    (hstatus : status ≠ "filtered_by_router") (sql check : Doc) :
    Planned (Doc.put (Doc.put fields "status" (.text status)) "steps"
        (.record (Doc.put (Doc.put steps "compiler" sql) "evaluator" check)))
      (Doc.put (Doc.put steps "compiler" sql) "evaluator" check) plan tokens where
  unfiltered := by
    rw [find?_renewed, if_neg (by decide), if_pos rfl]
    exact beq_false_of_ne hstatus
  stepped := by
    rw [find?_renewed, if_pos rfl]
    rfl
  decomposed := by
    rw [Doc.find?_put, if_neg (by decide), Doc.find?_put, if_neg (by decide)]
    exact h.decomposed
  filled := h.filled

theorem questionOf_renewed (fields inner : List (Text × Doc)) (status sql : Text) (tokens : Doc) :
    questionOf (Doc.put (Doc.put fields "status" (.text status)) "steps" (.record inner)) sql tokens =
      questionOf fields sql tokens := by
  have hfind (name : Text) (hsteps : name ≠ "steps") (hstatus : name ≠ "status") :
      Doc.find? (Doc.put (Doc.put fields "status" (.text status)) "steps" (.record inner)) name =
        Doc.find? fields name := by
    rw [find?_renewed, if_neg hsteps, if_neg hstatus]
  unfold questionOf
  rw [hfind "question_id" (by decide) (by decide), hfind "query" (by decide) (by decide),
    hfind "question" (by decide) (by decide), hfind "ground_truth_sql" (by decide) (by decide),
    hfind "SQL" (by decide) (by decide)]

theorem checkOf_renewed (db : Database) (fields inner : List (Text × Doc)) (status : Text)
    (tokens : Doc) (sql : SqlStep) :
    checkOf db (Doc.put (Doc.put fields "status" (.text status)) "steps" (.record inner)) tokens sql =
      checkOf db fields tokens sql := by
  cases sql with
  | success text => simp only [checkOf, questionOf_renewed]
  | comment text reason => rfl
  | error message => rfl

/-- What is made anew is made anew into itself. -/
theorem revised_revised {result : Doc} {revision : Revision} (h : revised world result = .ok revision) :
    revised world revision.result = .ok revision := by
  rcases (revised_cases h).2 with ⟨hkept, -⟩ | ⟨fields, steps, plan, tokens, rfl, hplanned, rfl⟩
  · rw [hkept, h]
  · obtain ⟨sql, hsql⟩ : ∃ sql, sqlAgain world.order world.store plan = sql := ⟨_, rfl⟩
    obtain ⟨made, hmade⟩ : ∃ made, checkOf world.database fields tokens sql = made := ⟨_, rfl⟩
    have hstatus : (if made.2 then ("completed" : Text) else "error") ≠ "filtered_by_router" := by
      cases made.2 <;> decide
    -- the plan is not among the fields that are set, so it gives the same statement and check again
    unfold redone
    rw [hsql]
    dsimp only
    rw [hmade]
    refine ((hplanned.renewed hstatus sql.toDoc made.1).revised world).trans (congrArg Except.ok ?_)
    unfold redone renewed
    rw [hsql]
    dsimp only
    rw [checkOf_renewed, hmade, Doc.put_put_again _ (by decide), Doc.put_put_again _ (by decide)]

end

end Reprocess

/-! ## Answers that can be counted -/

/-- Has an answer no more rows and columns than a machine can count? -/
def Reply.Fits : Reply → Prop
  | .table t => t.rows.length < 2 ^ 63 ∧ t.columns.length < 2 ^ 63
  | .failure _ => True

/-- Do all answers of a database have fewer rows and columns than a machine can count? -/
def Database.Fits (db : Database) : Prop :=
  ∀ r ∈ db.replies, r.2.Fits

theorem Database.Fits.reply {db : Database} (h : db.Fits) (sql : Text) : (db.reply sql).Fits := by
  have hlookup {key : Text} {r : Reply} (hr : db.replies.lookup key = some r) : r.Fits := by
    obtain ⟨before, after, hreplies, -⟩ := List.lookup_eq_some_iff.1 hr
    refine h (key, r) ?_
    rw [hreplies]
    exact List.mem_append_right before List.mem_cons_self
  unfold Database.reply
  split
  next r hr => exact hlookup hr
  next =>
    cases hr : db.replies.lookup ("*" : Text) with
    | none => trivial
    | some r => exact hlookup hr

theorem Table.length_aligned {t t' : Table} (h : t.aligned = .ok t') :
    t'.rows.length ≤ t.rows.length ∧ t'.columns = t.columns := by
  unfold Table.aligned at h
  split at h
  · cases h
    exact ⟨Nat.zero_le _, rfl⟩
  · split at h
    · cases h
    · cases h
      exact ⟨by simp, rfl⟩

theorem Table.length_normalized (t : Table) : t.normalized.length ≤ t.rows.length := by
  have hsettle : t.settle.rows.length ≤ t.rows.length := by
    unfold Table.settle
    dsimp only
    split <;> simp
  unfold Table.normalized Table.values
  dsimp only
  split <;> simpa using hsettle

theorem Database.Fits.executed {db : Database} (h : db.Fits) (sql : Doc) :
    (executed db sql).rowCount < 2 ^ 63 ∧ (executed db sql).columns.length < 2 ^ 63 := by
  have hnone : 0 < 2 ^ 63 := by decide
  unfold QueryBench.executed
  split
  · exact ⟨hnone, hnone⟩
  · split
    next table htable =>
      unfold Database.query at htable
      split at htable
      next s =>
        have hreply := h.reply s
        split at htable
        next t ht =>
          rw [ht] at hreply
          obtain ⟨hrows, hcolumns⟩ := Table.length_aligned htable
          refine ⟨(table.length_normalized.trans hrows).trans_lt hreply.1, ?_⟩
          simpa [Execution.columns, Table.columnNames, hcolumns] using hreply.2
        next => cases htable
      next => cases htable
    next => exact ⟨hnone, hnone⟩

theorem evaluated_parts {db : Database} {q : Question} {e : Evaluation} (h : evaluated db q = .ok e) :
    e.question = q ∧ e.gold = executed db q.gold ∧ e.predicted = executed db q.predicted := by
  have hgraded (h : gradedBy q (executed db q.gold) (executed db q.predicted) = .ok e) :
      e.question = q ∧ e.gold = executed db q.gold ∧ e.predicted = executed db q.predicted := by
    obtain ⟨r, -, h⟩ := ok_of_bind h
    cases h
    exact ⟨rfl, rfl, rfl⟩
  unfold evaluated at h
  dsimp only at h
  split at h
  · split at h
    · exact hgraded h
    · cases h
      exact ⟨rfl, rfl, rfl⟩
  · exact hgraded h

theorem Doc.Plain.count {n : Nat} (h : n < 2 ^ 63) : (Doc.int n).Plain := by
  refine .int ?_
  have hlimit : 2 ^ 63 ≤ 10 ^ Number.numeralLimit :=
    (Nat.pow_le_pow_left (by decide) 63).trans (Nat.pow_le_pow_right (by decide) (by decide))
  rw [Doc.Short, Int.natAbs_natCast]
  exact Nat.lt_of_lt_of_le h hlimit

theorem plain_evaluation {db : Database} (hfits : db.Fits) {q : Question} {e : Evaluation}
    (h : evaluated db q = .ok e) (hid : q.id.Plain) (hwording : q.wording.Plain)
    (hgold : q.gold.Plain) (hpredicted : q.predicted.Plain) (htokens : q.tokens.Plain) :
    e.toDoc.Plain := by
  obtain ⟨rfl, hexpected, hgot⟩ := evaluated_parts h
  have hreason : e.reasonDoc.Plain := by
    unfold Evaluation.reasonDoc
    cases e.reason with
    | none => exact .null
    | some reason => exact .text reason
  obtain ⟨hrows, hcolumns⟩ := hexpected ▸ hfits.executed e.question.gold
  obtain ⟨hrows', hcolumns'⟩ := hgot ▸ hfits.executed e.question.predicted
  have hnone : (Doc.record []).Plain := .record List.nodup_nil (by simp)
  have hspent : (if e.question.tokens.isVoid then .record [] else e.question.tokens : Doc).Plain := by
    split
    · exact hnone
    · exact htokens
  have hsummary : (Doc.record [("gt_rows", .int e.gold.rowCount),
      ("pred_rows", .int e.predicted.rowCount), ("gt_cols", .int e.gold.columns.length),
      ("pred_cols", .int e.predicted.columns.length)]).Plain := by
    refine .record (by simp only [List.map_cons, List.map_nil]; decide) ?_
    simp only [List.forall_mem_cons]
    exact ⟨.count hrows, .count hrows', .count hcolumns, .count hcolumns', by simp⟩
  refine .record (by simp only [List.map_cons, List.map_nil]; decide) ?_
  simp only [List.forall_mem_cons]
  exact ⟨.text _, hid, hwording, hgold, hpredicted, hspent, .text _, .text _, hreason, hsummary,
    by simp⟩

namespace Reprocess

/-! ## Results that can be read again -/

theorem plain_sqlStep (sql : SqlStep) : sql.toDoc.Plain := by
  have hnames : [Text.ofString "status", "generated_sql", "error"].Nodup := by decide
  have hpair : [Text.ofString "status", "generated_sql"].Nodup := by decide
  cases sql with
  | success sql =>
    refine .record hpair ?_
    simp only [List.forall_mem_cons]
    exact ⟨.text _, .text _, by simp⟩
  | comment sql reason =>
    cases reason with
    | none =>
      refine .record hpair ?_
      simp only [Option.map_none, Option.toList_none, List.append_nil, List.forall_mem_cons]
      exact ⟨.text _, .text _, by simp⟩
    | some reason =>
      refine .record hnames ?_
      simp only [Option.map_some, Option.toList_some, List.cons_append, List.nil_append,
        List.forall_mem_cons]
      exact ⟨.text _, .text _, .text _, by simp⟩
  | error message =>
    refine .record hnames ?_
    simp only [List.forall_mem_cons]
    exact ⟨.text _, .null, .text _, by simp⟩

theorem plain_skippedCheck : (Doc.record skippedCheck).Plain := by
  refine .record (by decide) ?_
  simp only [skippedCheck, List.forall_mem_cons]
  exact ⟨.text _, .text _, by simp⟩

theorem plain_orElse {a b : Doc} (ha : a.Plain) (hb : b.Plain) : (orElse a b).Plain := by
  obtain h | h := orElse_cases a b
  · rwa [h]
  · rwa [h]

theorem plain_checkOf {db : Database} (hfits : db.Fits) {fields : List (Text × Doc)}
    (hfields : (Doc.record fields).Plain) {tokens : Doc} (htokens : tokens.Plain) (sql : SqlStep) :
    (checkOf db fields tokens sql).1.Plain := by
  rcases checkOf_cases db fields tokens sql with hcheck | ⟨text, hcheck⟩
  · rw [hcheck]
    exact plain_skippedCheck
  · rw [hcheck, checkAgain]
    cases he : evaluated db (questionOf fields text tokens) with
    | error fault => exact (plain_skippedCheck.put _ (.text _)).put _ (.text _)
    | ok e =>
      exact plain_evaluation hfits he (.text _)
        (plain_orElse (hfields.find? _ .null) (hfields.find? _ .null))
        (plain_orElse (hfields.find? _ .null) (hfields.find? _ .null)) (.text _) htokens

variable {world : World}

theorem plain_revised (hfits : world.database.Fits) {result : Doc} (hresult : result.Plain)
    {revision : Revision} (h : revised world result = .ok revision) : revision.result.Plain := by
  rcases (revised_cases h).2 with ⟨hkept, -⟩ | ⟨fields, steps, plan, tokens, rfl, hplanned, rfl⟩
  · rwa [hkept]
  · have hnone : (Doc.record []).Plain := .record List.nodup_nil (by simp)
    have hsteps : (Doc.record steps).Plain := hplanned.stepped ▸ hresult.find? "steps" hnone
    obtain ⟨parts, hdecomposer, -, -, rfl⟩ := hplanned.decomposed
    have hparts : (Doc.record parts).Plain := hdecomposer ▸ hsteps.find? "decomposer" hnone
    have hcheck := plain_checkOf hfits hresult (hparts.find? "token_stats" hnone)
      (sqlAgain world.order world.store plan)
    exact (hresult.put _ (.text _)).put _ ((hsteps.put _ (plain_sqlStep _)).put _ hcheck)

theorem exists_record {result : Doc} {revision : Revision} (h : revised world result = .ok revision) :
    ∃ fields, revision.result = .record fields := by
  obtain ⟨⟨fields, rfl⟩, ⟨hkept, -⟩ | ⟨_, _, _, _, -, -, rfl⟩⟩ := revised_cases h
  · exact ⟨fields, hkept⟩
  · exact ⟨_, rfl⟩

/-! ## Reports made anew -/

theorem outputOf_eq (revisions : List Revision) :
    outputOf revisions = TestSet.reportOf (revisions.map Revision.result) := by
  rw [outputOf, TestSet.reportOf, List.map_map]
  rfl

/-- The lines that were written are handled again, and come to the same. -/
theorem HandledLines.again (hfits : world.database.Fits) {tally total : Doc} {lines : List Text}
    {revisions : List Revision} (h : HandledLines world tally lines revisions total) :
    HandledLines world tally (Text.lines (Text.unifyNewlines (outputOf revisions))) revisions
      total := by
  rw [outputOf_eq, Text.unifyNewlines_eq (TestSet.return_not_mem _), TestSet.lines_report]
  induction h with
  | nil tally => exact .nil tally
  | skip _ _ ih =>
    -- a line that was passed over has none in what was written
    exact ih
  | @cons _ _ _ result _ _ revision _ _ hread hfirst _ ih =>
    have hrevised : revised world result = .ok revision :=
      (yields_revised world result).eq hfirst.revised
    have hplain := plain_revised hfits (Json.plain_of_read hread) hrevised
    have hreportable : TestSet.Reportable revision.result :=
      ⟨exists_record hrevised, hplain.short, hfirst.shallow⟩
    have hread' : Json.read (TestSet.lineOf revision.result) = .ok revision.result := by
      rw [hreportable.read_lineOf, hplain.merged]
    have hagain : Yields (revise world revision.result) (.ok revision) :=
      revised_revised hrevised ▸ yields_revised world revision.result
    exact .cons hreportable.lineOf_not_blank hread'
      ⟨hagain, hfirst.counted, hfirst.shallow, hfirst.whole⟩ ih

section
variable {paths : Paths} {files files' : Files} {report report' : Text}
  {output errors statistics : Location} {made : Files}

theorem Ready.replaced (h : Ready world paths files report output errors statistics made)
    (hshape : Files.SameShape files files') (hinput : files'.text? paths.input = some report') :
    ∃ made', Ready world paths files' report' output errors statistics made' := by
  have hput := hshape.put output [] []
  obtain ⟨made', hmade', hshape'⟩ := (hput.put errors [] []).makeFolders h.folder
  obtain ⟨found, hfound⟩ := h.located
  refine ⟨made', hinput, ⟨found, ?_⟩, hshape.target _ ▸ h.outputTarget, hput.target _ ▸ h.errorsTarget,
    hmade', hshape'.target _ ▸ h.statisticsTarget, h.output_ne_errors, h.output_ne_statistics,
    hshape.find _ ▸ h.input_ne_output, hshape.find _ ▸ h.input_ne_errors⟩
  unfold Database.locate at hfound ⊢
  rwa [← hshape.exist, ← hshape.below]

variable {after : Files} {text : Text} {revisions : List Revision} {total : Doc} {texts : List Text}
  (h : Ran world paths files after output errors statistics text revisions total texts)
include h

theorem Ran.places : after.find paths.output = .ok output ∧ after.find paths.errors = .ok errors ∧
    after.find paths.statistics = .ok statistics := by
  obtain ⟨filled, made, hshape, hmade, htarget, rfl⟩ := h.left
  have hfree := Files.free_of_target h.outputTarget
  have hfree' := Files.free_of_target h.errorsTarget
  -- folders are made behind the two open files, and this hides no file
  have hfound {path : Text} {place : Location}
      (hplace : ((files.put output []).put errors []).target path = .ok place)
      (hmem : place ∈ ((files.put output []).put errors []).contents.map Prod.fst) :
      (made.put statistics (Text.Utf8.bytes texts.flatten)).find path = .ok place := by
    have hfind := Files.find_of_target hplace hmem
    rw [hshape.find] at hfind
    exact Files.find_put (Files.free_of_target htarget) _ ((Files.grows_makeFolders hmade).find hfind)
  refine ⟨?_, ?_, ?_⟩
  · exact hfound (Files.target_put hfree' [] (Files.target_put hfree [] h.outputTarget))
      (Files.mem_putContent.2 (.inr (Files.mem_putContent.2 (.inl rfl))))
  · exact hfound (Files.target_put hfree' [] h.errorsTarget) (Files.mem_putContent.2 (.inl rfl))
  · exact Files.find_put_self htarget _

/-- A run whose four files are different ones could be made where it was made. -/
theorem Ran.ready {input : Location} (hinput : files.find paths.input = .ok input)
    (hapart : [input, output, errors, statistics].Nodup) :
    ∃ report made, Ready world paths files report output errors statistics made ∧
      Text.unifyNewlines report = text := by
  obtain ⟨filled, made, hshape, hmade, htarget, -⟩ := h.left
  simp only [List.nodup_cons, List.mem_cons, not_or] at hapart
  obtain ⟨⟨hio, hie, -⟩, ⟨hoe, hos, -⟩, -⟩ := hapart
  have hfree := Files.free_of_target h.outputTarget
  have hfind := Files.find_put (Files.free_of_target h.errorsTarget) []
    (Files.find_put hfree [] hinput)
  obtain ⟨report, hreport, htext⟩ := Files.text?_of_read h.read
  obtain ⟨place, content, hplace, hlookup, hdecode⟩ := Files.text?_eq_some.1 hreport
  obtain rfl : input = place := Except.ok.inj (hfind.symm.trans hplace)
  rw [Files.lookup_put_of_ne _ hie, Files.lookup_put_of_ne _ hio] at hlookup
  obtain ⟨made', hmade', hshape'⟩ := hshape.symm.makeFolders hmade
  refine ⟨report, made', ⟨Files.text?_eq_some.2 ⟨input, content, hinput, hlookup, hdecode⟩, h.located,
    h.outputTarget, h.errorsTarget, hmade', hshape'.target _ ▸ htarget, hoe, hos, ?_, ?_⟩, htext⟩
  · rw [hinput]
    exact fun heq => hio (Except.ok.inj heq)
  · rw [hinput]
    exact fun heq => hie (Except.ok.inj heq)

end

/-- A report that was made anew is made anew into itself: where a run ended well, the same run ends
well on the report that it wrote, and writes the same report, the same failures and the same
statistics. -/
theorem reprocessing_idempotent {arguments : List Text} {paths : Paths}
    (hpaths : settingsOf arguments = .ok paths.settings) (hfits : world.database.Fits)
    {w after : Workspace} (hrun : runIn (run world arguments) w = (.ok (), after))
    {input output errors statistics : Location} (hinput : w.files.find paths.input = .ok input)
    (houtput : after.files.find paths.output = .ok output)
    (herrors : after.files.find paths.errors = .ok errors)
    (hstatistics : after.files.find paths.statistics = .ok statistics)
    (hapart : [input, output, errors, statistics].Nodup) :
    ∃ report failures summary, after.files.text? paths.output = some report ∧
      after.files.text? paths.errors = some failures ∧
      after.files.text? paths.statistics = some summary ∧
      ∀ session, ∃ after',
        runIn (run world arguments) ⟨session, w.files.put input (Text.Utf8.bytes report)⟩ =
          (.ok (), after') ∧
        after'.files.text? paths.output = some report ∧
        after'.files.text? paths.errors = some failures ∧
        after'.files.text? paths.statistics = some summary := by
  have hexist : w.files.exist paths.input = true := by
    rw [Files.exist, hinput]
    rfl
  obtain ⟨_, _, _, text, revisions, total, texts, hran⟩ := run_ok hpaths hexist hrun
  obtain ⟨ho, he, hs⟩ := hran.places
  cases houtput.symm.trans ho
  cases herrors.symm.trans he
  cases hstatistics.symm.trans hs
  obtain ⟨given, made, hready, rfl⟩ := hran.ready hinput hapart
  have hne : errors ≠ statistics := by
    simp only [List.nodup_cons, List.mem_cons, not_or] at hapart
    exact hapart.2.2.1.1
  -- what the run left behind
  obtain ⟨left, hends, hsummary, hreport, hfailures⟩ :=
    reprocess_lines hready hran.handled hran.pieces hran.whole
  obtain ⟨session, hfirst⟩ := run_ends hpaths hready.input hends w.session
  cases hrun.symm.trans hfirst
  refine ⟨outputOf revisions, errorsOf revisions, texts.flatten, hreport, hfailures hne, hsummary,
    fun session => ?_⟩
  -- the run on what it wrote
  obtain ⟨place, content, hplace, hlookup, -⟩ := Files.text?_eq_some.1 hready.input
  cases hinput.symm.trans hplace
  have hshape := Files.sameShape_put_lookup hlookup (Text.Utf8.bytes (outputOf revisions))
  have hgiven : (w.files.put input (Text.Utf8.bytes (outputOf revisions))).text? paths.input =
      some (outputOf revisions) :=
    Files.text?_eq_some.2 ⟨input, _, hshape.find _ ▸ hinput, Files.lookup_put_self _ _ _,
      Text.Utf8.decode_bytes hran.handled.whole.1⟩
  obtain ⟨made', hready'⟩ := hready.replaced hshape hgiven
  obtain ⟨left', hends', hsummary', hreport', hfailures'⟩ :=
    reprocess_lines hready' (hran.handled.again hfits) hran.pieces hran.whole
  obtain ⟨session', hsecond⟩ := run_ends hpaths hgiven hends' session
  exact ⟨⟨session', left'⟩, hsecond, hreport', hfailures' hne, hsummary'⟩

/-- A world in which sets are gone through backwards. -/
def backwardWorld : World :=
  { TestSet.sampleWorld with order := ⟨fun _ chosen => chosen.reverse, fun _ => List.reverse_perm⟩ }

/-- A result that has no other step than a plan of these tasks. -/
def planned (tasks : List (List (Text × Doc))) : Doc :=
  .record [("query", .text "q"), ("ground_truth_sql", .text "s"),
    ("metrics", .record [("total_tokens", .int 7)]),
    ("steps", .record [("decomposer", .record [("status", .text "success"),
      ("json_plan", .record [("tasks", .list (tasks.map .record))])])])]

/-- A result that was filtered, a line that is none, a result that can be completed, and one whose tasks
cannot be compared to find the last. -/
def mixedReport : Text :=
  reportLine (.record [("status", .text "filtered_by_router")]) ++ "no result\n" ++
    reportLine (planned [[("task_id", .int 1), ("main_table", .text "t")]]) ++
    reportLine (planned [[("task_id", .int 4)], [("task_id", .text "a")]])

def mixedFiles : Files :=
  TestSet.sampleFiles.put sampleInput (Text.Utf8.bytes mixedReport)

/-- The message of the last result, in which the ids stand as the set is gone through. -/
def incomparable : Text :=
  "'>' not supported between instances of 'int' and 'str'"

theorem mixedRun_left :
    (runIn (run backwardWorld sampleAgain) ⟨.start, mixedFiles⟩).1.toOption = some () ∧
    ([samplePaths.output, samplePaths.errors, samplePaths.statistics].map fun path =>
      ((runIn (run backwardWorld sampleAgain) ⟨.start, mixedFiles⟩).2.files.find path).toOption) =
      [some sampleOutput, some sampleErrors, some sampleStatistics] ∧
    ((runIn (run backwardWorld sampleAgain) ⟨.start, mixedFiles⟩).2.files.text?
      samplePaths.output).map (fun report => (Text.lines report).map isCompletedLine) =
      some [false, true, false] ∧
    ((runIn (run backwardWorld sampleAgain) ⟨.start, mixedFiles⟩).2.files.text?
      samplePaths.errors).map (Text.contains incomparable) = some true := by
  decide +kernel

theorem reprocessing_idempotent_mixed : ∃ after report failures summary after',
    runIn (run backwardWorld sampleAgain) ⟨.start, mixedFiles⟩ = (.ok (), after) ∧
    after.files.text? samplePaths.output = some report ∧
    (Text.lines report).map isCompletedLine = [false, true, false] ∧
    after.files.text? samplePaths.errors = some failures ∧
    Text.contains incomparable failures = true ∧
    after.files.text? samplePaths.statistics = some summary ∧
    runIn (run backwardWorld sampleAgain)
      ⟨.start, mixedFiles.put sampleInput (Text.Utf8.bytes report)⟩ = (.ok (), after') ∧
    after'.files.text? samplePaths.output = some report ∧
    after'.files.text? samplePaths.errors = some failures ∧
    after'.files.text? samplePaths.statistics = some summary := by
  have hfits : backwardWorld.database.Fits := by
    intro r hr
    simp only [backwardWorld, TestSet.sampleWorld, List.mem_cons, List.not_mem_nil, or_false] at hr
    rcases hr with rfl | rfl <;> exact ⟨by decide, by decide⟩
  have hinput : mixedFiles.find samplePaths.input = .ok sampleInput := rfl
  obtain ⟨hok, hplaces, hlines, hmessage⟩ := mixedRun_left
  rcases hrun : runIn (run backwardWorld sampleAgain) ⟨.start, mixedFiles⟩ with ⟨r, after⟩
  rw [hrun] at hok hplaces hlines hmessage
  obtain rfl : r = .ok () := ok_of_toOption hok
  simp only [List.map_cons, List.map_nil, List.cons.injEq] at hplaces
  obtain ⟨houtput, herrors, hstatistics, -⟩ := hplaces
  obtain ⟨report, failures, summary, hreport, hfailures, hsummary, hagain⟩ :=
    reprocessing_idempotent settingsOf_sampleAgain hfits hrun hinput (ok_of_toOption houtput)
      (ok_of_toOption herrors) (ok_of_toOption hstatistics) (by decide)
  obtain ⟨after', hrun', hreport', hfailures', hsummary'⟩ := hagain .start
  rw [hreport, Option.map_some] at hlines
  rw [hfailures, Option.map_some] at hmessage
  exact ⟨after, report, failures, summary, after', rfl, hreport, Option.some.inj hlines, hfailures,
    Option.some.inj hmessage, hsummary, hrun', hreport', hfailures', hsummary'⟩

end Reprocess

end QueryBench
