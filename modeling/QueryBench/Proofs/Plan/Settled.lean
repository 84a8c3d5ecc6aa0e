import QueryBench.Pipeline.Run
import QueryBench.Proofs.Plan.Related

/-!
# The statement of a plan is settled

What was written to the console before has no part in the text of a plan.

Main statement: `settled_statement`.
-/
set_option autoImplicit false

namespace QueryBench

namespace Plan

/-- Is the first computation settled? -/
def Settles (α : Type) (x _y : Traced α) : Prop :=
  Settled x

theorem congruence_settles : Congruence Settles where
  pure a := Settled.pure a
  say line := Settled.say line
  part _ := Settled.lift _
  bind hx hf := Settled.bind hx hf

theorem settled_compileTask (plan : Plan) (store : Vector.Store) (depth : Nat) (id : Doc) :
    Settled (compileTask plan store depth id) := by
  show Settles Text (compileTask plan store depth id) (compileTask plan store depth id)
  induction depth generalizing id with
  | zero =>
    rw [compileTask_eq_onTask]
    exact congruence_settles.onTask fun n task _ _ => Settled.throw .circular
  | succ depth ih =>
    rw [compileTask_eq_onTask]
    exact congruence_settles.onTask fun n task _ htask =>
      congruence_settles.renderTask_of_calls htask fun called _ => ih called

theorem settled_compile (plan : Plan) (order : SetOrder) (store : Vector.Store) :
    Settled (plan.compile order store) := by
  unfold compile
  split
  · exact .pure _
  · exact (Settled.lift (plan.root order)).bind fun _ => settled_compileTask plan store _ _

end Plan

theorem Pipeline.settled_statement (order : SetOrder) (store : Vector.Store) (plan : Doc) :
    Settled (statement order store plan) :=
  (Settled.lift (Plan.ofDoc plan)).bind fun plan => plan.settled_compile order store

end QueryBench
