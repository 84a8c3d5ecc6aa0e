import QueryBench.Pipeline.Step
import QueryBench.Proofs.Doc.Shape
import QueryBench.Proofs.Outcome
import QueryBench.Tally

/-!
# What a result counts for

The counters after a result depend on three things alone: whether it was filtered, failed or
completed, and for a completed one the name of its match and its tokens.

Main definitions: `Tally.Kind`, `Tally.IsKind`. Main statements: `count_eq`, and `isKind_toDoc` and
`isKind_merged` for the outcomes of questions.
-/
set_option autoImplicit false

namespace QueryBench.Tally

/-- What a result counts for. -/
inductive Kind where
  | filtered
  | failed
  | completed (name : Text) (tokens : Doc)

/-- Counts a result of a kind. -/
def recordKind (kind : Kind) : Counting Unit := do
  bump "total"
  match kind with
  | .filtered => bump "router_filtered"
  | .failed => bump "errors"
  | .completed name tokens =>
    increase "total_tokens" tokens
    recordMatch (.text name)

/-- The counters after a result of a kind. -/
def countKind (tally : Doc) (kind : Kind) : Except Fault Doc :=
  match (recordKind kind).run.run tally with
  | (.ok _, tally) => .ok tally
  | (.error fault, _) => .error fault

/-- Is a result of a kind? -/
def IsKind (result : Doc) : Kind → Prop
  | .filtered => result.member "status" = .ok (.text "filtered_by_router")
  | .failed => ∃ status, result.member "status" = .ok (.text status) ∧
      status ≠ "filtered_by_router" ∧ status ≠ "completed"
  | .completed name tokens => ∃ steps check metrics,
      result.member "status" = .ok (.text "completed") ∧ result.has "steps" = .ok true ∧
      result.field "steps" = .ok steps ∧ steps.has "evaluator" = .ok true ∧
      steps.field "evaluator" = .ok check ∧ check.member "match_type" = .ok (.text name) ∧
      result.field "metrics" = .ok metrics ∧ metrics.member "total_tokens" = .ok tokens

theorem recordCompleted_eq {result steps check metrics : Doc} {name : Text} {tokens : Doc}
    (hhas : result.has "steps" = .ok true) (hsteps : result.field "steps" = .ok steps)
    (hcheck : steps.has "evaluator" = .ok true) (hfield : steps.field "evaluator" = .ok check)
    (hname : check.member "match_type" = .ok (.text name))
    (hmetrics : result.field "metrics" = .ok metrics)
    (htokens : metrics.member "total_tokens" = .ok tokens) :
    recordCompleted result = (do
      increase "total_tokens" tokens
      recordMatch (.text name)) := by
  have hhasCheck : hasCheck result = .ok true := by
    unfold hasCheck
    rw [hhas, ok_bind, if_pos rfl, hsteps]
    exact hcheck
  unfold recordCompleted
  rw [hhasCheck, hsteps, hmetrics]
  show (do
    let check ← steps.field "evaluator"
    let name ← check.member "match_type"
    let tokens ← metrics.member "total_tokens"
    increase "total_tokens" tokens
    recordMatch name : Counting Unit) = _
  rw [hfield, htokens]
  show (do
    let name ← check.member "match_type"
    increase "total_tokens" tokens
    recordMatch name : Counting Unit) = _
  rw [hname]
  rfl

theorem record_eq {result : Doc} {kind : Kind} (h : IsKind result kind) :
    record result = recordKind kind := by
  unfold record recordKind
  refine congrArg (bump "total" >>= ·) (funext fun _ => ?_)
  cases kind with
  | filtered =>
    have h : result.member "status" = .ok (.text "filtered_by_router") := h
    rw [h]
    rfl
  | failed =>
    obtain ⟨status, h, hfiltered, hcompleted⟩ := h
    rw [h]
    show (if status == "filtered_by_router" then bump "router_filtered"
      else if status == "completed" then recordCompleted result else bump "errors") = _
    rw [beq_false_of_ne hfiltered, beq_false_of_ne hcompleted]
    rfl
  | completed name tokens =>
    obtain ⟨steps, check, metrics, hstatus, hhas, hsteps, hcheck, hfield, hname, hmetrics,
      htokens⟩ := h
    rw [hstatus]
    exact recordCompleted_eq hhas hsteps hcheck hfield hname hmetrics htokens

/-- Results of one kind count alike. -/
theorem count_eq {result : Doc} {kind : Kind} (h : IsKind result kind) (tally : Doc) :
    count tally result = countKind tally kind := by
  unfold count countKind
  exact record_eq h ▸ rfl

/-! ## Outcomes of questions -/

/-- The name of the match of a check. -/
def checkName : CheckStep → Text
  | .success e => e.quality.label
  | _ => "N/A"

/-- What an outcome counts for. -/
def kindOf (o : Outcome) : Kind :=
  match o.steps with
  | .filtered _ => .filtered
  | .planless .. | .sqlless .. => .failed
  | .completed _ _ _ check => .completed (checkName check) o.tokens

theorem isKind_toDoc (o : Outcome) : IsKind o.toDoc (kindOf o) := by
  obtain ⟨question, gold, steps, tokens⟩ := o
  cases steps with
  | filtered score => rfl
  | planless router plan => exact ⟨"decomposer_failure", rfl, by decide, by decide⟩
  | sqlless router plan sql => exact ⟨"compiler_failure", rfl, by decide, by decide⟩
  | completed router plan sql check =>
    refine ⟨_, _, _, rfl, rfl, rfl, rfl, rfl, ?_, rfl, rfl⟩
    cases check <;> rfl

/-- An outcome that was written and read again counts as before. -/
theorem isKind_merged {o : Outcome} (htokens : o.tokens.merged = o.tokens) :
    IsKind o.toDoc.merged (kindOf o) := by
  obtain ⟨question, gold, steps, tokens⟩ := o
  cases steps with
  | filtered score => rfl
  | planless router plan => exact ⟨"decomposer_failure", rfl, by decide, by decide⟩
  | sqlless router plan sql => exact ⟨"compiler_failure", rfl, by decide, by decide⟩
  | completed router plan sql check =>
    refine ⟨_, _, _, rfl, rfl, rfl, rfl, rfl, ?_, rfl, ?_⟩
    · cases check <;> rfl
    · exact congrArg Except.ok htokens

end QueryBench.Tally
