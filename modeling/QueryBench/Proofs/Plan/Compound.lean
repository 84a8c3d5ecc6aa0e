import QueryBench.Proofs.Plan.Calls
import QueryBench.Proofs.Plan.Opening

/-!
# Compound statements

A task makes a statement of its own, and the texts of other tasks are attached to it one after the
other. Each time both sides go between parentheses, so a statement that is combined with others
begins with as many parentheses as it has set operations.

Main definitions: `Plan.combined`, `Plan.Compound`. Main statement: `Plan.compounds_wrapped`.
-/
set_option autoImplicit false

namespace QueryBench.Plan

/-! ## The statement of a task on its own -/

theorem join_renderOwn (ctx : Context) (task : Task) (joins : List Join) :
    Ensures (renderOwn ctx task joins) fun sql =>
      ∀ j ∈ joins, ∃ text, Produces (renderJoin ctx j) text ∧ text <:+: sql := by
  refine (Ensures.true _).bind fun select _ => (Ensures.true _).bind fun source _ =>
    Ensures.bind
      (P := fun joined => ∀ j ∈ joins, ∃ text, Produces (renderJoin ctx j) text ∧ text <:+: joined)
      ?_ fun joined hjoined => (Ensures.true _).bind fun filter _ =>
    (Ensures.true _).bind fun grouping _ => (Ensures.true _).bind fun having _ =>
    (Ensures.true _).bind fun order _ => .pure ?_
  · refine (Ensures.forall₂ (P := fun j text => Produces (renderJoin ctx j) text)
      fun j _ => ensures_produces _).bind fun texts htexts => .pure ?_
    intro j hj
    obtain ⟨text, htext, hproduces⟩ := exists_mem_of_forall₂ htexts hj
    exact ⟨text, hproduces, isInfix_join htext⟩
  · intro j hj
    obtain ⟨text, hproduces, htext⟩ := hjoined j hj
    exact ⟨text, hproduces, htext.trans (isInfix_clauses (by simp) _)⟩

/-! ## Statements attached to it -/

/-- A statement with an operator and the text of another one behind it. -/
def attached (sql : Text) (operand : Text × Text) : Text :=
  "(" ++ sql ++ ") \n" ++ operand.1 ++ " \n(" ++ operand.2 ++ ")"

/-- A text with all set operations attached to it, from left to right. -/
def combined (base : Text) (operands : List (Text × Text)) : Text :=
  operands.foldl attached base

/-- Are the operator and the text those of a set operation of the task? -/
def Operand (ctx : Context) (s : SetOperation) (operand : Text × Text) : Prop :=
  operand.1 = s.operator.display ∧ ∃ id, s.task = .ok id ∧ Produces (ctx.subquery id) operand.2

theorem combined_renderSetOperations (ctx : Context) (base : Text) (operations : List SetOperation) :
    Ensures (renderSetOperations ctx base operations) fun sql =>
      ∃ operands, List.Forall₂ (Operand ctx) operations operands ∧ sql = combined base operands := by
  induction operations generalizing base with
  | nil => exact .pure ⟨[], .nil, rfl⟩
  | cons s rest ih =>
    refine (ensures_ok s.task).bind fun id hid =>
      (ensures_produces _).bind fun other hother => ?_
    intro console sql console' hrun
    obtain ⟨operands, hoperands, hsql⟩ := ih _ console sql console' hrun
    exact ⟨(s.operator.display, other) :: operands, .cons ⟨rfl, id, hid, hother⟩ hoperands, hsql⟩

theorem infix_combined (base : Text) (operands : List (Text × Text)) :
    base <:+: combined base operands := by
  induction operands generalizing base with
  | nil => exact List.infix_rfl
  | cons operand rest ih =>
    refine List.IsInfix.trans ⟨"(", ") \n" ++ operand.1 ++ " \n(" ++ operand.2 ++ ")", ?_⟩ (ih _)
    simp only [attached, List.append_assoc]

theorem operand_combined {operands : List (Text × Text)} {operand : Text × Text}
    (h : operand ∈ operands) (base : Text) :
    (") \n" ++ operand.1 ++ " \n(" ++ operand.2 ++ ")" : Text) <:+: combined base operands := by
  induction operands generalizing base with
  | nil => cases h
  | cons first rest ih =>
    obtain rfl | h := List.mem_cons.1 h
    · refine List.IsInfix.trans ⟨"(" ++ base, [], ?_⟩ (infix_combined _ rest)
      simp only [attached, List.append_assoc, List.append_nil]
    · exact ih h _

theorem prefix_combined {base word : Text} (h : word <+: base) (operands : List (Text × Text)) :
    List.replicate operands.length (Glyph.char '(') ++ word <+: combined base operands := by
  induction operands generalizing base word with
  | nil => exact h
  | cons operand rest ih =>
    have hword : Glyph.char '(' :: word <+: attached base operand := by
      obtain ⟨behind, rfl⟩ := h
      exact ⟨behind ++ ") \n" ++ operand.1 ++ " \n(" ++ operand.2 ++ ")", by
        simp only [attached, List.append_assoc]; rfl⟩
    have hrest := ih hword
    rwa [List.length_cons, List.replicate_succ', List.append_assoc]

/-- A text is made of the statement of a task and of those that are attached to it. -/
structure Compound (ctx : Context) (task : Task) (links : List Link) (operands : List (Text × Text))
    (base sql : Text) : Prop where
  links_eq : task.links = .ok links
  own : Produces (renderOwn ctx task (Link.joins links)) base
  operand : List.Forall₂ (Operand ctx) (Link.setOperations links) operands
  sql_eq : sql = combined base operands

theorem compound_renderTask (ctx : Context) (task : Task) :
    Ensures (renderTask ctx task) fun sql =>
      ∃ links operands base, Compound ctx task links operands base sql := by
  rw [renderTask_eq]
  refine (ensures_ok task.links).bind fun links hlinks =>
    (ensures_produces _).bind fun base hbase => ?_
  intro console sql console' hrun
  obtain ⟨operands, hoperands, hsql⟩ :=
    combined_renderSetOperations ctx base _ console sql console' hrun
  exact ⟨links, operands, base, hlinks, hbase, hoperands, hsql⟩

namespace Compound
variable {ctx : Context} {task : Task} {links : List Link} {operands : List (Text × Text)}
  {base sql : Text}

theorem opening (h : Compound ctx task links operands base sql) :
    List.replicate (Link.setOperations links).length (Glyph.char '(') ++ Text.ofString "SELECT" <+:
      sql := by
  obtain ⟨console, console', hrun⟩ := h.own
  rw [h.operand.length_eq, h.sql_eq]
  exact prefix_combined (select_renderOwn ctx task _ console base console' hrun) operands

theorem select_iff (h : Compound ctx task links operands base sql) :
    Text.ofString "SELECT" <+: sql ↔ Link.setOperations links = [] := by
  obtain ⟨behind, hsql⟩ := h.opening
  rw [← hsql]
  cases Link.setOperations links with
  | nil => exact ⟨fun _ => rfl, fun _ => List.prefix_append _ _⟩
  | cons s rest =>
    constructor
    · rintro ⟨_, heq⟩
      cases List.head_eq_of_cons_eq heq
    · exact nofun

end Compound

/-- A statement is a comment, because there is no task at its root, or it is that of the task at the
root with others attached to it: it begins with as many parentheses as there are others, and so with
a bare `SELECT` only if there are none. -/
theorem compounds_wrapped {plan : Plan} {order : SetOrder} {store : Vector.Store} {sql : Text}
    (h : Produces (plan.compile order store) sql) :
    (Text.ofString "--" <+: sql ∧ ∀ root number, plan.root order = .ok root →
      root.toInt = .ok number → plan.find? number = none) ∨
    ∃ root number task below links operands base, plan.root order = .ok root ∧
      root.toInt = .ok number ∧ plan.find? number = some task ∧ plan.tasks.length = below + 1 ∧
      Compound ⟨store, compileTask plan store below⟩ task links operands base sql ∧
      List.replicate (Link.setOperations links).length (Glyph.char '(') ++ Text.ofString "SELECT" <+:
        sql ∧
      (Text.ofString "SELECT" <+: sql ↔ Link.setOperations links = []) := by
  obtain ⟨console, console', h⟩ := h
  unfold compile at h
  split at h
  next hempty =>
    cases h
    refine .inl ⟨⟨Text.ofString " No tasks found", rfl⟩, fun _ number _ _ => ?_⟩
    rw [find?, List.isEmpty_iff.1 hempty]
    rfl
  · obtain ⟨root, _, hroot, h⟩ := run_bind_ok h
    have hroot : plan.root order = .ok root := ensures_ok (plan.root order) console root _ hroot
    obtain ⟨number, hnumber, ⟨htask, rfl⟩ | ⟨below, task, hdepth, htask, console, console', h⟩⟩ :=
      produces_entered ⟨_, console', h⟩
    · refine .inl
        ⟨⟨Text.ofString " Error: Task " ++ root.display ++ Text.ofString " not found", rfl⟩, ?_⟩
      intro root' number' hroot' hnumber'
      cases hroot.symm.trans hroot'
      cases hnumber.symm.trans hnumber'
      exact htask
    · obtain ⟨links, operands, base, hcompound⟩ := compound_renderTask _ task console sql console' h
      exact .inr ⟨root, number, task, below, links, operands, base, hroot, hnumber, htask, hdepth,
        hcompound, hcompound.opening, hcompound.select_iff⟩

/-- A task that is combined with two others. -/
def mergedTask : List (Text × Doc) :=
  [("task_id", .int 1), ("main_table", .text "loan"), ("structural_logic",
    .list [.record [("type", .text "UNION"), ("target_task_id", .int 2)],
      .record [("type", .text "EXCEPT"), ("target_task_id", .text "3")]])]

/-- A plan whose first task is merged with two others. -/
def mergedPlan : Plan :=
  ⟨[(.int 1, mergedTask), (.int 2, [("task_id", .int 2), ("main_table", .text "card")]),
    (.int 3, [("task_id", .int 3), ("main_table", .text "disp")])]⟩

def mergedStatement : Text :=
  "((SELECT *\nFROM \"loan\") \nUNION \n(SELECT *\nFROM \"card\")) " ++
    "\nEXCEPT \n(SELECT *\nFROM \"disp\")"

theorem produces_merged : Produces (mergedPlan.compile .given ⟨[]⟩) mergedStatement := by
  have hrun : (runIn (mergedPlan.compile .given ⟨[]⟩) "").1.toOption = some mergedStatement := by
    decide +kernel
  exact produces_of_run (ok_of_toOption hrun)

theorem compounds_wrapped_merged :
    Produces (mergedPlan.compile .given ⟨[]⟩) mergedStatement ∧
      ∃ links operands base, Compound ⟨⟨[]⟩, compileTask mergedPlan ⟨[]⟩ 2⟩
        (Task.ofFields mergedTask) links operands base mergedStatement ∧ operands.length = 2 := by
  refine ⟨produces_merged, ?_⟩
  obtain ⟨hcomment, -⟩ |
    ⟨root, number, task, below, links, operands, base, hroot, hnumber, htask, hdepth, hcompound,
      -, -⟩ := compounds_wrapped produces_merged
  · exact absurd hcomment (by decide)
  · have hcomputed : (mergedPlan.root .given >>= Doc.toInt).toOption = some 1 := by decide +kernel
    rw [hroot, ok_bind, hnumber] at hcomputed
    cases hcomputed
    cases htask
    cases hdepth
    refine ⟨links, operands, base, hcompound, ?_⟩
    rw [← hcompound.operand.length_eq]
    cases hcompound.links_eq
    rfl

/-- A statement that is combined with others is no bare one. -/
theorem merged_not_bare :
    ∃ sql, Produces (mergedPlan.compile .given ⟨[]⟩) sql ∧
      ¬ (Text.ofString "SELECT" <+: sql ∨ Text.ofString "--" <+: sql) :=
  ⟨mergedStatement, produces_merged, by decide⟩

end QueryBench.Plan
