import QueryBench.Proofs.Plan.Dangling
import QueryBench.Proofs.Tally.Adding

/-!
# Every question has an outcome

Whatever parts of a pipeline are missing, and whatever the services and the database reply, a question
has an outcome. Its report has one of four shapes, and which one is told by the reports of the router,
of the plan and of the compiler. Where the model counts tokens in whole numbers, the report can be
counted.

Main definitions: `Pipeline.Shaped`, `Services.WholeTokens`. Main statement:
`Pipeline.process_shaped_countable`.
-/
set_option autoImplicit false

namespace QueryBench

/-- Does the model count the tokens of every answer in whole numbers? -/
def Services.WholeTokens (services : Services) : Prop :=
  ∀ n request content tokens, services.model n request = .answer content tokens → ∃ k, tokens = .int k

theorem RouterStep.eq_chat_of_intent {router : RouterStep}
    (h : router.toDoc.field "intent" = .ok (.text "GENERAL CHAT")) :
    ∃ score, router = .success .chat score := by
  cases router with
  | success intent score =>
    cases intent with
    | chat => exact ⟨score, rfl⟩
    | query =>
      have hlabel : Intent.query.label = "GENERAL CHAT" := Doc.text.inj (Except.ok.inj h)
      exact absurd hlabel (by decide)
  | skipped => cases h
  | error message => cases h

theorem PlanStep.field_status (plan : PlanStep) :
    plan.toDoc.field "status" = .ok (.text plan.status.label) :=
  rfl

theorem PlanStatus.label_ne_success {status : PlanStatus} (h : status ≠ .success) :
    status.label ≠ "success" := by
  cases status with
  | success => exact absurd rfl h
  | pending | noTasks | unachievable | error => decide

namespace Pipeline

/-! ## Shapes -/

/-- The status and the steps of a report, where the router, the plan and the compiler report this. -/
inductive Shaped (router plan sql : Doc) : Text → List (Text × Doc) → Prop where
  | filtered (hintent : router.field "intent" = .ok (.text "GENERAL CHAT")) :
      Shaped router plan sql "filtered_by_router" [("router", router)]
  | planless {status : Text} (hintent : router.field "intent" ≠ .ok (.text "GENERAL CHAT"))
      (hplan : plan.field "status" = .ok (.text status)) (hstatus : status ≠ "success") :
      Shaped router plan sql "decomposer_failure" [("router", router), ("decomposer", plan)]
  | sqlless {status : Text} (hintent : router.field "intent" ≠ .ok (.text "GENERAL CHAT"))
      (hplan : plan.field "status" = .ok (.text "success"))
      (hsql : sql.field "status" = .ok (.text status)) (hstatus : status ≠ "success") :
      Shaped router plan sql "compiler_failure"
        [("router", router), ("decomposer", plan), ("compiler", sql)]
  | completed {text : Text} (check : Doc)
      (hintent : router.field "intent" ≠ .ok (.text "GENERAL CHAT"))
      (hplan : plan.field "status" = .ok (.text "success"))
      (hsql : sql.field "status" = .ok (.text "success"))
      (htext : sql.field "generated_sql" = .ok (.text text))
      (hopening : ¬ Text.ofString "--" <+: text) :
      Shaped router plan sql "completed"
        [("router", router), ("decomposer", plan), ("compiler", sql), ("evaluator", check)]

theorem not_comment_of_sqlFor {order : SetOrder} {store : Vector.Store} {plan : Doc} {sql : Text}
    (h : sqlFor order store plan = .success sql) : ¬ Text.ofString "--" <+: sql := by
  unfold sqlFor at h
  split at h
  · cases h
  · split at h
    next => cases h
    next hopening =>
      cases h
      exact fun hprefix => hopening (List.isPrefixOf_iff_prefix.2 hprefix)

theorem shaped_stepsAfter (p : Pipeline) (q : Inquiry) {router : RouterStep}
    (hrouter : ∀ score, router ≠ .success .chat score) (plan : PlanStep) (tokens : Doc) :
    ∃ steps, (p.stepsAfter q router (plan, tokens)).toDoc = .record steps ∧
      Shaped router.toDoc plan.toDoc (sqlFor p.order p.store plan.plan).toDoc
        (p.stepsAfter q router (plan, tokens)).status steps := by
  have hintent : router.toDoc.field "intent" ≠ .ok (.text "GENERAL CHAT") := by
    intro h
    obtain ⟨score, rfl⟩ := RouterStep.eq_chat_of_intent h
    exact hrouter score rfl
  unfold stepsAfter
  dsimp only
  by_cases hplan : plan.status = .success
  · rw [if_neg (not_not.2 hplan)]
    have hstatus : plan.toDoc.field "status" = .ok (.text "success") := by
      rw [PlanStep.field_status, hplan]
      rfl
    cases hsql : sqlFor p.order p.store plan.plan with
    | success sql =>
      exact ⟨_, rfl, .completed _ hintent hstatus rfl rfl (not_comment_of_sqlFor hsql)⟩
    | comment sql reason =>
      have hne : Text.ofString "error_in_sql" ≠ "success" := by decide
      exact ⟨_, rfl, .sqlless hintent hstatus rfl hne⟩
    | error message =>
      have hne : Text.ofString "error" ≠ "success" := by decide
      exact ⟨_, rfl, .sqlless hintent hstatus rfl hne⟩
  · rw [if_pos hplan]
    exact ⟨_, rfl, .planless hintent (PlanStep.field_status plan) (PlanStatus.label_ne_success hplan)⟩

/-! ## Tokens -/

theorem answer_of_plan {reply : ModelReply} {plan tokens : Doc} (h : reply.plan = .ok (plan, tokens)) :
    ∃ content, reply = .answer content tokens := by
  obtain ⟨r, hreply, h⟩ := ok_of_bind h
  obtain ⟨text, -, h⟩ := ok_of_bind h
  obtain ⟨doc, -, h⟩ := ok_of_bind h
  cases h
  cases reply with
  | answer content tokens =>
    cases hreply
    exact ⟨content, rfl⟩
  | failure message => cases hreply

theorem whole_planStepOf (plan : Doc) (n : Int) : ∃ k, (planStepOf plan (.int n)).2 = .int k := by
  have hadd : (Doc.int 0).add (.int n) = .ok (.int (0 + n)) := rfl
  refine ⟨0 + n, ?_⟩
  unfold planStepOf
  rw [hadd]
  dsimp only
  cases planStatus plan <;> rfl

theorem whole_planStep {p : Pipeline} (h : p.services.WholeTokens) (q : Inquiry) :
    Always (p.planStep q) fun r => ∃ k, r.2 = .int k := by
  unfold planStep
  cases p.decomposer with
  | none => exact .pure ⟨0, rfl⟩
  | some d =>
    refine (ensures_decompose d p.services q.database q.question q.hint).always.bind fun r hr => ?_
    cases r with
    | error fault => exact .pure ⟨0, rfl⟩
    | ok r =>
      obtain ⟨plan, tokens⟩ := r
      obtain ⟨reason, hrefusal⟩ | ⟨n, request, hreply⟩ := hr _ rfl
      · cases hrefusal
        exact .pure (whole_planStepOf _ 0)
      · obtain ⟨content, hanswer⟩ := answer_of_plan hreply
        obtain ⟨k, rfl⟩ := h n request content tokens hanswer
        exact .pure (whole_planStepOf plan k)

/-! ## Outcomes -/

section
variable {p : Pipeline} {session asking compiling : Session}

theorem process_of_chat {q : Inquiry} {score : Doc}
    (h : (p.routeStep q).run session.timed = (.success .chat score, asking)) :
    ∃ time, ((p.process q).run session).1 = ⟨q.question, q.gold, .filtered score, .int 0, time⟩ := by
  obtain ⟨last, hrun⟩ := run_process p q session
  have hattempt : ((p.attempt q).run session.timed).1 = (.filtered score, .int 0) := by
    unfold attempt
    rw [StateT.run_bind, h]
    rfl
  rw [hattempt] at hrun
  exact ⟨_, hrun⟩

theorem process_of_routed {q : Inquiry} {router : RouterStep} {plan : PlanStep} {tokens : Doc}
    (h : (p.routeStep q).run session.timed = (router, asking))
    (hrouter : ∀ score, router ≠ .success .chat score)
    (hplan : (p.planStep q).run asking = ((plan, tokens), compiling)) :
    ∃ time, ((p.process q).run session).1 =
      ⟨q.question, q.gold, p.stepsAfter q router (plan, tokens), tokens, time⟩ := by
  obtain ⟨last, hrun⟩ := run_process p q session
  have hplanned := run_planned p q router asking
  rw [hplan] at hplanned
  have hattempt : ((p.attempt q).run session.timed).1 =
      (p.stepsAfter q router (plan, tokens), tokens) := by
    unfold attempt
    rw [StateT.run_bind, h]
    cases router with
    | skipped | error message => exact hplanned
    | success intent score =>
      cases intent with
      | chat => exact absurd rfl (hrouter score)
      | query => exact hplanned
  rw [hattempt] at hrun
  exact ⟨_, hrun⟩

end

/-- A question has an outcome whatever its parts, its services and its database do. The outcome is
reported in one of four shapes, and counts once where tokens are counted in whole numbers. -/
theorem process_shaped_countable (p : Pipeline) (q : Inquiry) (session : Session) :
    ∃ o after, (p.process q).run session = (o, after) ∧
      (∃ router asking plan tokens compiling sql checking status steps,
        (p.routeStep q).run session.timed = (router, asking) ∧
        (p.planStep q).run asking = ((plan, tokens), compiling) ∧
        (p.sqlStep plan.plan).run compiling = (sql, checking) ∧
        o.toDoc.field "status" = .ok (.text status) ∧ o.toDoc.field "steps" = .ok (.record steps) ∧
        Shaped router.toDoc plan.toDoc sql.toDoc status steps) ∧
      (p.services.WholeTokens → Tally.CountedOnce o.toDoc) := by
  rcases hrouter : (p.routeStep q).run session.timed with ⟨router, asking⟩
  rcases hplan : (p.planStep q).run asking with ⟨⟨plan, tokens⟩, compiling⟩
  rcases hsql : (p.sqlStep plan.plan).run compiling with ⟨sql, checking⟩
  have hwhole (h : p.services.WholeTokens) : ∃ k, tokens = .int k := by
    have hk := whole_planStep h q asking
    rwa [hplan] at hk
  obtain rfl : sqlFor p.order p.store plan.plan = sql := by rw [← gives_sqlStep p plan.plan compiling, hsql]
  -- chat ends at the router, and anything else goes on to the plan
  by_cases hchat : ∃ score, router = .success .chat score
  · obtain ⟨score, rfl⟩ := hchat
    obtain ⟨time, hprocess⟩ := process_of_chat hrouter
    refine ⟨_, _, Prod.ext hprocess rfl,
      ⟨_, _, _, _, _, _, _, _, _, rfl, hplan, hsql, rfl, rfl, .filtered rfl⟩,
      fun _ => Tally.countedOnce_toDoc rfl⟩
  · have hnot : ∀ score, router ≠ .success .chat score := fun score h => hchat ⟨score, h⟩
    obtain ⟨steps, hsteps, hshaped⟩ := shaped_stepsAfter p q hnot plan tokens
    obtain ⟨time, hprocess⟩ := process_of_routed hrouter hnot hplan
    refine ⟨_, _, Prod.ext hprocess rfl,
      ⟨_, _, _, _, _, _, _, _, _, rfl, hplan, hsql, rfl, congrArg Except.ok hsteps, hshaped⟩,
      fun h => ?_⟩
    obtain ⟨k, hk⟩ := hwhole h
    exact Tally.countedOnce_toDoc hk

theorem process_shaped_countable_dangling :
    danglingPipeline.services.WholeTokens ∧ ∃ o after tally',
      (danglingPipeline.process danglingInquiry).run .start = (o, after) ∧
      o.toDoc.field "status" = .ok (.text "completed") ∧
      Tally.count Tally.start o.toDoc = .ok tally' ∧ Tally.counter tally' "total" = some 1 := by
  have hwhole : danglingPipeline.services.WholeTokens := by
    intro n request content tokens h
    cases h
    exact ⟨7, rfl⟩
  obtain ⟨o, after, hrun, -, hcount⟩ :=
    process_shaped_countable danglingPipeline danglingInquiry .start
  obtain ⟨tally', htally, -, ending, -, hcounters⟩ :=
    hcount hwhole Tally.start Tally.isWhole_start
  have hsteps := steps_dangling
  rw [hrun] at hsteps
  have hstatus : o.toDoc.field "status" = .ok (.text o.steps.status) := rfl
  rw [hsteps] at hstatus
  refine ⟨hwhole, o, after, tally', hrun, hstatus, htally, ?_⟩
  rw [hcounters "total" List.mem_cons_self, if_pos (.inl rfl)]
  rfl

end Pipeline

end QueryBench
