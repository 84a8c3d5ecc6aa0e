import QueryBench.Proofs.Json.Plain
import QueryBench.Proofs.Pipeline.Steady

/-!
# Outcomes that may arise

Whatever the services reply, what a question leads to from its plan on is fixed: the same plan gives
the same statement, and the same statement the same check.

Main definition: `Pipeline.Arises`. Main statement: `Pipeline.always_process`.
-/
set_option autoImplicit false

namespace QueryBench

/-- What holds of a plan that was asked for and of the tokens used. -/
structure PlanStep.Made (plan : PlanStep) (tokens : Doc) : Prop where
  tokens : tokens.merged = tokens
  plan : plan.status = .success →
    plan.plan.merged = plan.plan ∧ plan.plan.isVoid = false ∧ plan.error = none

namespace Pipeline

/-- Outcomes of a question. A plan that succeeded says by itself what follows. -/
inductive Arises (p : Pipeline) (q : Inquiry) : Outcome → Prop where
  | filtered (score : Doc) (time : Float) :
      Arises p q ⟨q.question, q.gold, .filtered score, .int 0, time⟩
  | planless (router : RouterStep) {plan : PlanStep} {tokens : Doc} (hmade : plan.Made tokens)
      (hplan : plan.status ≠ .success) (time : Float) :
      Arises p q ⟨q.question, q.gold, .planless router plan, tokens, time⟩
  | sqlless (router : RouterStep) {plan : PlanStep} {tokens : Doc} (hmade : plan.Made tokens)
      (hplan : plan.status = .success) (hsql : ∀ text, sqlFor p.order p.store plan.plan ≠ .success text)
      (time : Float) : Arises p q
        ⟨q.question, q.gold, .sqlless router plan (sqlFor p.order p.store plan.plan), tokens, time⟩
  | completed (router : RouterStep) {plan : PlanStep} {tokens : Doc} (hmade : plan.Made tokens)
      (hplan : plan.status = .success) {sql : Text}
      (hsql : sqlFor p.order p.store plan.plan = .success sql) (time : Float) : Arises p q
        ⟨q.question, q.gold, .completed router plan sql (p.checkFor q sql tokens), tokens, time⟩

/-- Tokens that may arise stay when they are written and read again. -/
theorem Arises.merged_tokens {p : Pipeline} {q : Inquiry} {o : Outcome} (h : p.Arises q o) :
    o.tokens.merged = o.tokens := by
  cases h with
  | filtered score time => rfl
  | planless router hmade hplan time => exact hmade.tokens
  | sqlless router hmade hplan hsql time => exact hmade.tokens
  | completed router hmade hplan hsql time => exact hmade.tokens

/-! ## Plans -/

theorem isVoid_of_planStatus {plan : Doc} {error : Option Doc}
    (h : planStatus plan = .ok (.success, error)) : plan.isVoid = false ∧ error = none := by
  obtain ⟨tasks, htasks, h⟩ := ok_of_bind h
  have hvoid : tasks.isVoid = false := by
    by_contra hvoid
    rw [if_pos (by simpa using hvoid)] at h
    cases h
  constructor
  · cases plan with
    | record fields =>
      cases fields with
      | nil =>
        cases htasks
        cases hvoid
      | cons f rest => rfl
    | _ => cases htasks
  · rw [hvoid] at h
    obtain ⟨first, -, h⟩ := ok_of_bind h
    obtain ⟨achievable, -, h⟩ := ok_of_bind h
    split at h
    · obtain ⟨e, -, h⟩ := ok_of_bind h
      cases h
    · cases h
      rfl

theorem made_planStepOf {plan : Doc} (hplan : plan.merged = plan) (tokens : Doc) :
    (planStepOf plan tokens).1.Made (planStepOf plan tokens).2 := by
  unfold planStepOf
  cases hadd : (Doc.int 0).add tokens with
  | error fault => exact ⟨rfl, fun h => nomatch h⟩
  | ok total =>
    have htotal := merged_add hadd
    dsimp only
    cases hstatus : planStatus plan with
    | error fault => exact ⟨htotal, fun h => nomatch h⟩
    | ok r =>
      obtain ⟨status, error⟩ := r
      refine ⟨htotal, fun h => ?_⟩
      obtain rfl : status = .success := h
      exact ⟨hplan, isVoid_of_planStatus hstatus⟩

theorem ensures_askModel (services : Services) (request : Request) :
    Ensures (askModel services request) fun r =>
      ∃ n, (services.model n request).outcome = .ok r := by
  intro s r s' hrun
  refine ⟨s.modelCalls, ?_⟩
  rw [run_askModel] at hrun
  exact (Prod.ext_iff.1 hrun).1

theorem ensures_ask (services : Services) (request : Request) :
    Ensures (Decomposer.ask services request) fun r =>
      ∃ n, (services.model n request).plan = .ok r := by
  refine (ensures_askModel services request).bind fun r hr => ?_
  obtain ⟨content, tokens⟩ := r
  obtain ⟨n, hreply⟩ := hr
  refine (Ensures.lift fun _ htext => htext).bind fun text htext =>
    (Ensures.lift fun _ hplan => hplan).bind fun plan hplan => .pure ⟨n, ?_⟩
  unfold ModelReply.plan
  rw [hreply, ok_bind]
  dsimp only
  rw [htext, ok_bind, hplan, ok_bind]
  rfl

/-- A plan says why there is none, or a reply of the model gave it. -/
theorem ensures_decompose (d : Decomposer) (services : Services) (database question hint : Doc) :
    Ensures (d.decompose services database question hint) fun r =>
      (∃ reason, r = (Decomposer.refusal reason, .int 0)) ∨
        ∃ n request, (services.model n request).plan = .ok r := by
  refine (Ensures.true _).bind fun schema _ => ?_
  cases schema.isVoid with
  | true => exact .pure (.inl ⟨_, rfl⟩)
  | false =>
    refine (Ensures.true _).bind fun hint _ => Ensures.tryCatch ?_ fun fault =>
      (Ensures.true _).bind fun _ _ => .pure (.inl ⟨_, rfl⟩)
    intro s r s' hrun
    obtain ⟨n, hreply⟩ := ensures_ask services _ s r s' hrun
    exact .inr ⟨n, _, hreply⟩

theorem merged_of_plan {reply : ModelReply} {plan tokens : Doc} (h : reply.plan = .ok (plan, tokens)) :
    plan.merged = plan := by
  obtain ⟨r, -, h⟩ := ok_of_bind h
  obtain ⟨text, -, h⟩ := ok_of_bind h
  obtain ⟨doc, hread, h⟩ := ok_of_bind h
  cases h
  exact Json.merged_of_read hread

theorem always_planStep (p : Pipeline) (q : Inquiry) :
    Always (p.planStep q) fun r => r.1.Made r.2 := by
  unfold planStep
  cases p.decomposer with
  | none => exact .pure ⟨rfl, fun h => nomatch h⟩
  | some d =>
    refine (ensures_decompose d p.services q.database q.question q.hint).always.bind fun r hr => ?_
    cases r with
    | error fault => exact .pure ⟨rfl, fun h => nomatch h⟩
    | ok r =>
      obtain ⟨plan, tokens⟩ := r
      refine .pure (made_planStepOf ?_ tokens)
      obtain ⟨reason, hrefusal⟩ | ⟨n, request, hreply⟩ := hr _ rfl
      · cases hrefusal
        rfl
      · exact merged_of_plan hreply

/-! ## Outcomes -/

theorem always_planned (p : Pipeline) (q : Inquiry) (router : RouterStep) :
    Always (p.planned q router) fun r => ∀ time, p.Arises q ⟨q.question, q.gold, r.1, r.2, time⟩ := by
  intro session
  rw [run_planned]
  have hmade := always_planStep p q session
  generalize ((p.planStep q).run session).1 = r at hmade ⊢
  obtain ⟨plan, tokens⟩ := r
  intro time
  unfold stepsAfter
  dsimp only
  by_cases hplan : plan.status = .success
  · rw [if_neg (not_not.2 hplan)]
    have hmade : plan.Made tokens := hmade
    have hsqlless := Arises.sqlless (p := p) (q := q) router hmade hplan
    cases hsql : sqlFor p.order p.store plan.plan with
    | success sql => exact .completed router hmade hplan hsql time
    | comment sql reason =>
      rw [hsql] at hsqlless
      exact hsqlless nofun time
    | error message =>
      rw [hsql] at hsqlless
      exact hsqlless nofun time
  · rw [if_pos hplan]
    exact .planless router hmade hplan time

theorem always_attempt (p : Pipeline) (q : Inquiry) :
    Always (p.attempt q) fun r => ∀ time, p.Arises q ⟨q.question, q.gold, r.1, r.2, time⟩ := by
  refine (Always.true _).bind fun router _ => ?_
  cases router with
  | skipped => exact always_planned p q _
  | error message => exact always_planned p q _
  | success intent score =>
    cases intent with
    | chat => exact .pure (.filtered score)
    | query => exact always_planned p q _

/-- Every outcome of a question is one that may arise. -/
theorem always_process (p : Pipeline) (q : Inquiry) : Always (p.process q) (p.Arises q) := by
  intro session
  obtain ⟨last, hrun⟩ := run_process p q session
  rw [hrun]
  exact always_attempt p q session.timed _

end Pipeline

end QueryBench
