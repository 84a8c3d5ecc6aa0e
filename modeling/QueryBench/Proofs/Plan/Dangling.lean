import QueryBench.Proofs.Doc.Unmarked
import QueryBench.Proofs.Json.RoundTrip
import QueryBench.Proofs.Pipeline.Arising
import QueryBench.Proofs.Plan.Calls

/-!
# References to tasks that are not there

A task that is not there leaves a comment where its text should stand. The comment has no quotes, so
it is kept by everything that is done to the text of a task on its way into a statement: it stands at
the start of the statement when the root is not there, and inside it otherwise.

Main definitions: `Plan.Asked`, the tasks that are asked for on the way, and `Plan.Present`. Main
statement: `Pipeline.asked_present_or_noted`.
-/
set_option autoImplicit false

namespace QueryBench

namespace Plan

/-- The tasks that are asked for while the text of one is made. -/
inductive Asked (plan : Plan) : Doc → Doc → Prop where
  | self (id : Doc) : Asked plan id id
  | call {id other asked : Doc} {number : Int} {task : Task} (hnumber : id.toInt = .ok number)
      (htask : plan.find? number = some task) (hcall : .call other ∈ task.leaves)
      (hasked : Asked plan other asked) : Asked plan id asked

/-- Is there a task with the id? -/
def Present (plan : Plan) (id : Doc) : Prop :=
  ∃ number, id.toInt = .ok number ∧ (plan.find? number).isSome = true

theorem unmarked_missingTask {id : Doc} {number : Int} (h : id.toInt = .ok number) :
    Text.Unmarked (missingTask id) := by
  have hfirst : Text.Unmarked "-- Error: Task " := by decide
  have hlast : Text.Unmarked " not found" := by decide
  exact Text.unmarked_append.2 ⟨Text.unmarked_append.2 ⟨hfirst, Doc.unmarked_of_toInt h⟩, hlast⟩

theorem Keeps.unmarked {text sql needle : Text} (h : Keeps text sql) (hneedle : Text.Unmarked needle)
    (htext : needle <:+: text) : needle <:+: sql :=
  h needle (fun hmem => nomatch hneedle _ hmem) (fun hmem => nomatch hneedle _ hmem) htext

/-- A task that is asked for is there, or the comment on it stands in the text. -/
theorem present_or_noted {plan : Plan} {store : Vector.Store} {id asked : Doc}
    (hasked : plan.Asked id asked) {depth : Nat} {sql : Text}
    (h : Produces (compileTask plan store depth id) sql) :
    ∃ number, asked.toInt = .ok number ∧
      ((plan.find? number).isSome = true ∨ missingTask asked <:+: sql) := by
  -- by induction on the way from the task to the one that is asked for, with less depth at each call
  induction hasked generalizing depth sql with
  | self id =>
    obtain ⟨number, hnumber, ⟨-, rfl⟩ | ⟨below, task, -, htask, -⟩⟩ := produces_compileTask h
    · exact ⟨number, hnumber, .inr List.infix_rfl⟩
    · exact ⟨number, hnumber, .inl (Option.isSome_iff_exists.2 ⟨task, htask⟩)⟩
  | call hnumber htask hcall _ ih =>
    obtain ⟨number', hnumber', ⟨hnone, -⟩ | ⟨below, task', -, htask', hholds⟩⟩ :=
      produces_compileTask h
    · obtain rfl := Except.ok.inj (hnumber.symm.trans hnumber')
      cases htask.symm.trans hnone
    · obtain rfl := Except.ok.inj (hnumber.symm.trans hnumber')
      obtain rfl := Option.some.inj (htask.symm.trans htask')
      obtain ⟨text, hproduces, hkeeps⟩ := hholds _ hcall
      obtain ⟨number, hasked, hfound | hnoted⟩ := ih hproduces
      · exact ⟨number, hasked, .inl hfound⟩
      · exact ⟨number, hasked, .inr (hkeeps.unmarked (unmarked_missingTask hasked) hnoted)⟩

end Plan

namespace Pipeline

theorem startsWith_append (head rest : Text) : Text.startsWith head (head ++ rest) = true :=
  List.isPrefixOf_iff_prefix.2 (List.prefix_append head rest)

/-- The statement of a plan that compiles is the text of its root, and the root is there. -/
theorem root_of_sqlFor {order : SetOrder} {store : Vector.Store} {d : Doc} {sql : Text}
    (h : sqlFor order store d = .success sql) :
    ∃ plan root depth, Plan.ofDoc d = .ok plan ∧ plan.root order = .ok root ∧ plan.Present root ∧
      Plan.Produces (plan.compileTask store depth root) sql := by
  unfold sqlFor at h
  cases hcompiled : compiled order store d with
  | error fault =>
    rw [hcompiled] at h
    cases h
  | ok text =>
    rw [hcompiled] at h
    dsimp only at h
    split at h
    · cases h
    next hstarts =>
      cases h
      have hrun : runIn (statement order store d) "" =
          (.ok sql, (statement order store d).outcome.2) := Prod.ext hcompiled rfl
      obtain ⟨plan, console, hplan, hrun⟩ := run_bind_ok hrun
      rw [run_lift] at hplan
      obtain ⟨hplan, -⟩ := Prod.mk.inj hplan
      unfold Plan.compile at hrun
      split at hrun
      · cases hrun
        exact absurd (startsWith_append "--" " No tasks found") hstarts
      · obtain ⟨root, console, hroot, hrun⟩ := run_bind_ok hrun
        rw [run_lift] at hroot
        obtain ⟨hroot, -⟩ := Prod.mk.inj hroot
        have hproduces : Plan.Produces (plan.compileTask store plan.tasks.length root) sql :=
          ⟨_, _, hrun⟩
        refine ⟨plan, root, _, hplan, hroot, ?_, hproduces⟩
        obtain ⟨number, hnumber, ⟨-, rfl⟩ | ⟨-, task, -, htask, -⟩⟩ :=
          Plan.produces_compileTask hproduces
        · exact absurd (startsWith_append "--"
            (" Error: Task " ++ root.display ++ " not found")) hstarts
        · exact ⟨number, hnumber, Option.isSome_iff_exists.2 ⟨task, htask⟩⟩

/-- When a plan has compiled, its root is there, and of every other task that was asked for either the
task is there or the comment on it stands in the statement. -/
theorem asked_present_or_noted (p : Pipeline) (q : Inquiry) (session : Session) {router : RouterStep}
    {step : PlanStep} {sql : Text} {check : CheckStep}
    (h : ((p.process q).run session).1.steps = .completed router step sql check) :
    ∃ plan root, Plan.ofDoc step.plan = .ok plan ∧ plan.root p.order = .ok root ∧ plan.Present root ∧
      ∀ id, plan.Asked root id → plan.Present id ∨ Plan.missingTask id <:+: sql := by
  have harises := always_process p q session
  generalize (p.process q).run session = result at h harises
  obtain ⟨⟨question, gold, steps, tokens, time⟩, session'⟩ := result
  obtain rfl : steps = .completed router step sql check := h
  cases harises with
  | completed _ _ _ hsql _ =>
    obtain ⟨plan, root, depth, hplan, hroot, hpresent, hproduces⟩ := root_of_sqlFor hsql
    refine ⟨plan, root, hplan, hroot, hpresent, fun id hasked => ?_⟩
    obtain ⟨number, hnumber, hfound | hnoted⟩ := Plan.present_or_noted hasked hproduces
    · exact .inl ⟨number, hnumber, hfound⟩
    · exact .inr hnoted

/-! ## A reference into nothing -/

theorem plan_answer {content : Text} {plan : Doc} (h : Json.read (Text.trim content) = .ok plan)
    (tokens : Doc) : (ModelReply.answer (.text content) tokens).plan = .ok (plan, tokens) := by
  show (Json.read (Text.trim content) >>= fun plan => Except.ok (plan, tokens)) = _
  rw [h]
  rfl

/-- The plan for a question on a known database, without a hint, is that of the reply. -/
theorem planFor_of_reply {p : Pipeline} {q : Inquiry} {d : Decomposer} {schema plan tokens : Doc}
    (hd : p.decomposer = some d) (hschema : d.schemaOf q.database = .ok schema)
    (hknown : schema.isVoid = false) (hhint : q.hint = .null)
    (hplan : (p.services.model 0 (d.request schema none q.question)).plan = .ok (plan, tokens)) :
    p.planFor q = planStepOf plan tokens := by
  have hdecomposed : d.decomposed p.services q.database q.question q.hint = .ok (plan, tokens) := by
    have hnone : Decomposer.hintOf .null = .ok none := rfl
    unfold Decomposer.decomposed
    rw [hschema, ok_bind, hknown, hhint, hnone, ok_bind, hplan]
    rfl
  unfold planFor
  rw [hd]
  dsimp only
  rw [hdecomposed]

/-- A question whose plan compiles has gone through every step. -/
theorem steps_of_sqlFor {p : Pipeline} {q : Inquiry} {score : Doc} {plan : PlanStep} {tokens : Doc}
    {sql : Text} (hrouted : p.routed q = .success .query score)
    (hplan : p.planFor q = (plan, tokens)) (hstatus : plan.status = .success)
    (hsql : sqlFor p.order p.store plan.plan = .success sql) (time : Float) :
    (p.processed q time).steps =
      .completed (.success .query score) plan sql (p.checkFor q sql tokens) := by
  unfold processed attempted
  rw [hrouted]
  dsimp only
  unfold stepsAfter
  rw [hplan]
  dsimp only
  rw [if_neg (not_not.2 hstatus), hsql]

/-- A task that selects the result of a task that is not there. -/
def danglingTask : List (Text × Doc) :=
  [("task_id", .int 1),
    ("target", .list [.record [("value",
      .record [("type", .text "SUBQUERY"), ("target_task_id", .int 9)])]]),
    ("main_table", .text "loan")]

def danglingPlan : Doc :=
  .record [("tasks", .list [.record danglingTask])]

/-- A pipeline whose model gives this plan. -/
def danglingPipeline : Pipeline where
  services :=
    { router := fun _ _ => .answer (.int 1) (.real 1.0)
      model := fun _ _ => .answer (.text (Json.write .line danglingPlan)) (.int 7)
      clock := fun _ => 0.0 }
  order := .given
  store := ⟨[]⟩
  router := true
  decomposer := some ⟨.groq, .record [("financial", .text "t")]⟩
  evaluator := none

def danglingInquiry : Inquiry where
  question := .text "q"
  database := .text "financial"
  gold := .null
  hint := .null

def danglingStatement : Text :=
  "SELECT (-- Error: Task 9 not found)\nFROM \"loan\""

theorem read_dangling :
    Json.read (Text.trim (Json.write .line danglingPlan)) = .ok danglingPlan := by
  have htrim : Text.trim (Json.write .line danglingPlan) = Json.write .line danglingPlan := by
    decide +kernel
  have hten : 10 ≤ 10 ^ Number.numeralLimit := Nat.le_self_pow (by decide) 10
  have hshort : danglingPlan.Short := by
    simp only [danglingPlan, danglingTask, Doc.Short, Doc.ShortItems, Doc.ShortFields, and_true,
      true_and]
    generalize 10 ^ Number.numeralLimit = limit at hten
    omega
  rw [htrim, Json.read_write_line hshort (by decide)]
  rfl

theorem sqlFor_dangling : sqlFor .given ⟨[]⟩ danglingPlan = .success danglingStatement := by
  have hcompiled : (compiled .given ⟨[]⟩ danglingPlan).toOption = some danglingStatement := by
    decide +kernel
  unfold sqlFor
  rw [ok_of_toOption hcompiled]
  rfl

theorem planFor_dangling : danglingPipeline.planFor danglingInquiry =
    (⟨.success, .int 7, danglingPlan, none⟩, .int 7) := by
  have hreply : danglingPipeline.planFor danglingInquiry = planStepOf danglingPlan (.int 7) :=
    planFor_of_reply (d := ⟨.groq, .record [("financial", .text "t")]⟩) rfl rfl rfl rfl
      (plan_answer read_dangling (.int 7))
  rw [hreply]
  rfl

theorem steps_dangling :
    ((danglingPipeline.process danglingInquiry).run .start).1.steps =
      .completed (.success .query (.real 1.0)) ⟨.success, .int 7, danglingPlan, none⟩
        danglingStatement .skipped := by
  have hsteady : danglingPipeline.services.Steady := ⟨fun _ _ => rfl, fun _ _ => rfl⟩
  obtain ⟨first, last, hrun⟩ := always_repeats hsteady danglingInquiry .start
  rw [hrun]
  exact steps_of_sqlFor rfl planFor_dangling rfl sqlFor_dangling _

theorem asked_dangling : Plan.Asked ⟨[(.int 1, danglingTask)]⟩ (.int 1) (.int 9) := by
  have hleaves : (Plan.Task.ofFields danglingTask).leaves =
      [.call (.int 9), .shown (.text "\"loan\"")] := rfl
  refine .call rfl rfl ?_ (.self _)
  rw [hleaves]
  exact List.mem_cons_self

/-- A task that is not there is asked for, and the plan compiles all the same. -/
theorem dangling_reference_compiles : ∃ router step sql check plan root,
    ((danglingPipeline.process danglingInquiry).run .start).1.steps = .completed router step sql check ∧
    Plan.ofDoc step.plan = .ok plan ∧ plan.root danglingPipeline.order = .ok root ∧
    plan.Asked root (.int 9) ∧
    ¬ plan.Present (.int 9) ∧ Plan.missingTask (.int 9) <:+: sql := by
  refine ⟨_, _, _, _, ⟨[(.int 1, danglingTask)]⟩, .int 1, steps_dangling, rfl, rfl, asked_dangling, ?_,
    ?_⟩
  · rintro ⟨number, hnumber, hfound⟩
    cases hnumber
    cases hfound
  · exact ⟨"SELECT (", ")\nFROM \"loan\"", rfl⟩

theorem asked_present_or_noted_dangling :
    ∃ plan root, Plan.ofDoc danglingPlan = .ok plan ∧ plan.root .given = .ok root ∧ plan.Present root ∧
      ∀ id, plan.Asked root id → plan.Present id ∨ Plan.missingTask id <:+: danglingStatement :=
  asked_present_or_noted danglingPipeline danglingInquiry .start steps_dangling

end Pipeline

end QueryBench
