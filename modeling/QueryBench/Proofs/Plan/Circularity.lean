import Mathlib.Data.List.Perm.Subperm
import Mathlib.Logic.Relation
import QueryBench.Proofs.Plan.Settled

/-!
# Plans without circles

A task refers to those whose ids stand anywhere in it, and calls only for such tasks. Where no task that
can be reached reaches itself, entering tasks comes to an end: at most as many are entered inside each
other as the plan has. And a task that has a text was not entered while it was being compiled, for then
it would be entered again and again.

Main definitions: `Plan.Refers`, and `Plan.compileWatched`, which compiles a task and stops where one is
entered again. Main statement: `Plan.ends_without_circles`.
-/
set_option autoImplicit false

namespace QueryBench

/-! ## Numbers -/

theorem Number.Binary.truncate_of_compareInt {b : Binary} {m : Int}
    (h : Binary.compareInt m b = .eq) : b.truncate = m := by
  have hden : 0 < b.ratio.2 := by
    unfold Binary.ratio
    split
    · exact Nat.one_pos
    · exact Nat.pow_pos (by decide)
  have hden' : (0 : Int) < b.ratio.2 := Int.natCast_pos.2 hden
  have heq : m * b.ratio.2 = if b.negative then -(b.ratio.1 : Int) else (b.ratio.1 : Int) :=
    Std.LawfulEqOrd.eq_of_compare h
  have htruncate : b.truncate = if b.negative then -((b.ratio.1 / b.ratio.2 : Nat) : Int)
      else (b.ratio.1 / b.ratio.2 : Nat) := rfl
  rw [htruncate]
  split at heq
  next hnegative =>
    have hnum : (b.ratio.1 : Int) = -m * b.ratio.2 := by rw [Int.neg_mul, heq, Int.neg_neg]
    rw [if_pos hnegative, Int.natCast_ediv, hnum, Int.mul_ediv_cancel _ (Int.ne_of_gt hden'),
      Int.neg_neg]
  next hpositive =>
    rw [if_neg hpositive, Int.natCast_ediv, ← heq, Int.mul_ediv_cancel _ (Int.ne_of_gt hden')]

namespace Doc

theorem toInt_of_same {d : Doc} {m : Int} (h : d.same (.int m) = true) : d.toInt = .ok m := by
  have hnumbers : compareNumbers? d (.int m) = some (some .eq) := by
    cases d with
    | list items | record fields => cases h
    | _ => exact eq_of_beq h
  cases d with
  | bool b =>
    have heq : (if b then 1 else 0 : Int) = m :=
      Std.LawfulEqOrd.eq_of_compare (Option.some.inj (Option.some.inj hnumbers))
    rw [toInt, heq]
  | int n =>
    have heq : n = m := Std.LawfulEqOrd.eq_of_compare (Option.some.inj (Option.some.inj hnumbers))
    rw [toInt, heq]
  | real x =>
    obtain ⟨order, horder, hswap⟩ := Option.map_eq_some_iff.1 (Option.some.inj hnumbers)
    obtain rfl : order = .eq := by
      cases order with
      | eq => rfl
      | lt => cases hswap
      | gt => cases hswap
    unfold compareNumbers?.compareMixed at horder
    rw [toInt]
    cases hfloat : Number.Binary.ofFloat? x with
    | some b =>
      rw [hfloat] at horder
      rw [← Number.Binary.truncate_of_compareInt (Option.some.inj horder)]
    | none =>
      rw [hfloat] at horder
      dsimp only at horder
      split at horder
      · cases horder
      · split at horder <;> cases horder
  | _ => cases hnumbers

mutual

/-- The floating point numbers in a document, at any depth. -/
def reals : Doc → List Float
  | .real x => [x]
  | .list items => itemReals items
  | .record fields => fieldReals fields
  | _ => []

def itemReals : List Doc → List Float
  | [] => []
  | d :: rest => reals d ++ itemReals rest

def fieldReals : List (Text × Doc) → List Float
  | [] => []
  | (_, d) :: rest => reals d ++ fieldReals rest

end

/-- Has the document no infinite number in it? What is not a number is not infinite. -/
def NoInfinity (d : Doc) : Prop :=
  ∀ x ∈ d.reals, Number.isFinite x = true ∨ x.isNaN = true

theorem noInfinity_list {items : List Doc} :
    NoInfinity (.list items) ↔ ∀ d ∈ items, d.NoInfinity := by
  have hreals : (Doc.list items).reals = items.flatMap reals := by
    rw [reals]
    induction items with
    | nil => rfl
    | cons d rest ih => rw [itemReals, ih, List.flatMap_cons]
  rw [NoInfinity, hreals, List.forall_mem_flatMap]
  rfl

theorem noInfinity_record {fields : List (Text × Doc)} :
    NoInfinity (.record fields) ↔ ∀ f ∈ fields, f.2.NoInfinity := by
  have hreals : (Doc.record fields).reals = fields.flatMap fun f => f.2.reals := by
    rw [reals]
    induction fields with
    | nil => rfl
    | cons f rest ih => rw [fieldReals, ih, List.flatMap_cons]
  rw [NoInfinity, hreals, List.forall_mem_flatMap]
  rfl

theorem toInt_ne_infinite {d : Doc} (hd : d.NoInfinity) : d.toInt ≠ .error .infinite := by
  intro h
  cases d with
  | real x =>
    rw [toInt] at h
    have hx := hd x List.mem_cons_self
    unfold Number.isFinite at hx
    cases hfloat : Number.Binary.ofFloat? x with
    | some b =>
      rw [hfloat] at h
      cases h
    | none =>
      rw [hfloat] at h hx
      have hnan : x.isNaN = true := hx.resolve_left Bool.false_ne_true
      rw [if_pos hnan] at h
      cases h
  | text s =>
    rw [toInt] at h
    split at h <;> cases h
  | _ => cases h

end Doc

namespace Plan

/-! ## References -/

/-- Is there a result, with only such numbers in it? -/
def Lists (A : Int → Prop) (x : Except Fault (List Int)) : Prop :=
  ∃ numbers, x = .ok numbers ∧ ∀ n ∈ numbers, A n

section
variable {A : Int → Prop}

theorem lists_nil : Lists A (.ok []) :=
  ⟨[], rfl, nofun⟩

theorem lists_append {x y : Except Fault (List Int)} :
    Lists A (do let here ← x; let there ← y; return here ++ there) ↔ Lists A x ∧ Lists A y := by
  constructor
  · rintro ⟨numbers, h, hnumbers⟩
    obtain ⟨here, hx, h⟩ := ok_of_bind h
    obtain ⟨there, hy, h⟩ := ok_of_bind h
    cases h
    obtain ⟨hhere, hthere⟩ := List.forall_mem_append.1 hnumbers
    exact ⟨⟨here, hx, hhere⟩, there, hy, hthere⟩
  · rintro ⟨⟨here, rfl, hhere⟩, there, rfl, hthere⟩
    exact ⟨here ++ there, rfl, List.forall_mem_append.2 ⟨hhere, hthere⟩⟩

theorem lists_items {items : List Doc} :
    Lists A (references (.list items)) ↔ ∀ d ∈ items, Lists A (references d) := by
  rw [references]
  induction items with
  | nil => exact ⟨fun _ => nofun, fun _ => lists_nil⟩
  | cons d rest ih => rw [itemReferences, lists_append, ih, List.forall_mem_cons]

theorem lists_fields {fields : List (Text × Doc)} :
    Lists A (references (.record fields)) ↔
      Lists A (ownReference fields) ∧ ∀ f ∈ fields, Lists A (references f.2) := by
  have hfields : Lists A (fieldReferences fields) ↔ ∀ f ∈ fields, Lists A (references f.2) := by
    induction fields with
    | nil => exact ⟨fun _ => nofun, fun _ => lists_nil⟩
    | cons f rest ih => rw [fieldReferences, lists_append, ih, List.forall_mem_cons]
  rw [references, lists_append, hfields]

end

/-- Without an infinite number the references of a document are found. -/
theorem references_ok {d : Doc} (hd : d.NoInfinity) : Lists (fun _ => True) (references d) := by
  induction d using Doc.nested with
  | list items ih => exact lists_items.2 fun d hmem => ih d hmem (Doc.noInfinity_list.1 hd d hmem)
  | record fields ih =>
    have hfields := Doc.noInfinity_record.1 hd
    refine lists_fields.2 ⟨?_, fun f hf => ih f hf (hfields f hf)⟩
    unfold ownReference
    split
    · exact lists_nil
    · exact lists_nil
    next target hnull hfind =>
      split
      · exact ⟨_, rfl, fun _ _ => trivial⟩
      next hinfinite =>
        obtain ⟨before, behind, rfl, -⟩ := List.lookup_eq_some_iff.1 hfind
        exact absurd hinfinite (Doc.toInt_ne_infinite (hfields ("target_task_id", target) (by simp)))
      · exact lists_nil
  | _ => exact lists_nil

theorem ownReference_of_toInt {fields : List (Text × Doc)} {task : Doc} {n : Int}
    (hfind : Doc.find? fields "target_task_id" = some task) (hn : task.toInt = .ok n) :
    ownReference fields = .ok [n] := by
  unfold ownReference
  rw [hfind]
  cases task with
  | null => cases hn
  | _ =>
    dsimp only
    rw [hn]

/-- Is a task called for only if its number is among these? -/
def Leaf.Within (A : Int → Prop) : Leaf → Prop
  | .call task => ∀ n, task.toInt = .ok n → A n
  | _ => True

/-- A task is called for only where it is referred to. -/
theorem inherits_within (A : Int → Prop) :
    Inherits (fun d => Lists A (references d)) (Leaf.Within A) where
  item h := lists_items.1 h
  field h := (lists_fields.1 h).2
  null := lists_nil
  empty := lists_nil
  noText := lists_nil
  ascending := lists_nil
  shown _ := trivial
  display _ := trivial
  upper _ := trivial
  quoted _ _ := trivial
  grouped _ _ := trivial
  call {fields} h n hn := by
    obtain ⟨own, hown, hA⟩ := (lists_fields.1 h).1
    cases hfind : Doc.find? fields "target_task_id" with
    | none =>
      rw [hfind] at hn
      cases hn
    | some task =>
      rw [hfind] at hn
      rw [ownReference_of_toInt hfind hn] at hown
      cases hown
      exact hA n List.mem_cons_self
  fault _ := trivial

/-- A task is found among its references if it is called for. -/
theorem references_of_calls {fields : List (Text × Doc)} (hfields : Doc.NoInfinity (.record fields)) :
    ∃ numbers, references (.record fields) = .ok numbers ∧
      ∀ called n, .call called ∈ (Task.ofFields fields).leaves → called.toInt = .ok n → n ∈ numbers := by
  obtain ⟨numbers, hnumbers, -⟩ := references_ok hfields
  have hleaves := (inherits_within (· ∈ numbers)).leaves_ofFields ⟨numbers, hnumbers, fun _ => id⟩
  exact ⟨numbers, hnumbers, fun called n hcalled hn => hleaves (.call called) hcalled n hn⟩

/-! ## The graph of tasks -/

/-- The task with the first number refers to the second one. -/
def Refers (plan : Plan) (m n : Int) : Prop :=
  ∃ t numbers, plan.tasks.find? (fun t => t.1.same (.int m)) = some t ∧
    references (.record t.2) = .ok numbers ∧ n ∈ numbers

/-- The task with the first number calls for the second one. -/
def CallsFor (plan : Plan) (m n : Int) : Prop :=
  ∃ task id, plan.find? m = some task ∧ .call id ∈ task.leaves ∧ id.toInt = .ok n

theorem inherits_noInfinity : Inherits Doc.NoInfinity fun _ => True where
  item h := Doc.noInfinity_list.1 h
  field h := Doc.noInfinity_record.1 h
  null := nofun
  empty := nofun
  noText := nofun
  ascending := nofun
  shown _ := trivial
  display _ := trivial
  upper _ := trivial
  quoted _ _ := trivial
  grouped _ _ := trivial
  call _ := trivial
  fault _ := trivial

/-- Where no number is infinite, a task refers to all that it calls for. -/
theorem CallsFor.refers {d : Doc} {plan : Plan} (hd : d.NoInfinity) (hplan : Plan.ofDoc d = .ok plan)
    {m n : Int} (h : plan.CallsFor m n) : plan.Refers m n := by
  obtain ⟨task, called, htask, hcalled, hn⟩ := h
  obtain ⟨t, ht, rfl⟩ := Option.map_eq_some_iff.1 htask
  obtain ⟨numbers, hnumbers, hcalls⟩ := references_of_calls
    (inherits_noInfinity.tasks_ofDoc hd hplan t (List.mem_of_find?_eq_some ht))
  exact ⟨t, numbers, ht, hnumbers, hcalls called n hcalled hn⟩

/-- The id of the task that a number is looked up for stands for the number. -/
theorem toInt_of_find? {tasks : List (Doc × List (Text × Doc))} {t : Doc × List (Text × Doc)} {n : Int}
    (h : tasks.find? (fun t => t.1.same (.int n)) = some t) : t.1.toInt = .ok n :=
  Doc.toInt_of_same (List.find?_some (p := fun t : Doc × List (Text × Doc) => t.1.same (.int n)) h)

/-- Different numbers that are there belong to different tasks. -/
theorem length_le_of_present {plan : Plan} {numbers : List Int} (hnodup : numbers.Nodup)
    (hpresent : ∀ n ∈ numbers, (plan.find? n).isSome) : numbers.length ≤ plan.tasks.length := by
  have hkeys : numbers ⊆ plan.tasks.filterMap fun t => t.1.toInt.toOption := by
    intro n hn
    obtain ⟨task, htask⟩ := Option.isSome_iff_exists.1 (hpresent n hn)
    obtain ⟨t, ht, -⟩ := Option.map_eq_some_iff.1 htask
    refine List.mem_filterMap.2 ⟨t, List.mem_of_find?_eq_some ht, ?_⟩
    rw [toInt_of_find? ht]
    rfl
  exact Nat.le_trans (hnodup.subperm hkeys).length_le (List.length_filterMap_le _ _)

/-! ## Work without circles ends -/

section
variable {plan : Plan} {store : Vector.Store}

/-- Can no task that is reached from the number reach itself? -/
def Acyclic (plan : Plan) (m : Int) : Prop :=
  ∀ n, Relation.ReflTransGen plan.Refers m n → ¬ Relation.TransGen plan.Refers n n

/-- A task that is entered without a circle is none of those that are being compiled. -/
theorem enters_anew {active : List Int} {n : Int} {task : Task} (hnodup : active.Nodup)
    (hpresent : ∀ a ∈ active, (plan.find? a).isSome) (hacyclic : plan.Acyclic n)
    (hreach : ∀ a ∈ active, Relation.TransGen plan.Refers a n) (htask : plan.find? n = some task) :
    (n :: active).Nodup ∧ ∀ a ∈ n :: active, (plan.find? a).isSome := by
  have hnew : n ∉ active := fun hn => hacyclic n .refl (hreach n hn)
  exact ⟨List.nodup_cons.2 ⟨hnew, hnodup⟩, List.forall_mem_cons.2 ⟨by rw [htask]; rfl, hpresent⟩⟩

/-- With room for every task that is not being compiled yet, no circle is met. -/
theorem spares_compileTask (hcalls : ∀ m n, plan.CallsFor m n → plan.Refers m n) {depth : Nat}
    {id : Doc} {active : List Int} (hnodup : active.Nodup)
    (hpresent : ∀ a ∈ active, (plan.find? a).isSome)
    (hacyclic : ∀ n, id.toInt = .ok n → plan.Acyclic n)
    (hreach : ∀ n, id.toInt = .ok n → ∀ a ∈ active, Relation.TransGen plan.Refers a n)
    (hdepth : plan.tasks.length ≤ depth + active.length) :
    Spares Text (compileTask plan store depth id) (compileTask plan store depth id) := by
  -- the tasks being compiled are there, all different and all lead to the one at hand; so with no depth
  -- left they are all the tasks of the plan, and the one at hand would be one more
  induction depth generalizing id active with
  | zero =>
    rw [compileTask_eq_onTask]
    refine congruence_spares.onTask fun n task hn htask => ?_
    obtain ⟨hnodup', hpresent'⟩ := enters_anew hnodup hpresent (hacyclic n hn) (hreach n hn) htask
    have hlength := length_le_of_present hnodup' hpresent'
    rw [List.length_cons] at hlength
    omega
  | succ depth ih =>
    rw [compileTask_eq_onTask]
    refine congruence_spares.onTask fun n task hn htask =>
      congruence_spares.renderTask_of_calls htask fun called hcalled => ?_
    obtain ⟨hnodup', hpresent'⟩ := enters_anew hnodup hpresent (hacyclic n hn) (hreach n hn) htask
    have hrefers (k : Int) (hk : called.toInt = .ok k) : plan.Refers n k :=
      hcalls n k ⟨task, called, htask, hcalled, hk⟩
    refine ih hnodup' hpresent' (fun k hk => ?_) (fun k hk => ?_) ?_
    · exact fun l hl => hacyclic n hn l (.head (hrefers k hk) hl)
    · exact List.forall_mem_cons.2 ⟨.single (hrefers k hk),
        fun a ha => (hreach n hn a ha).tail (hrefers k hk)⟩
    · rw [List.length_cons]
      omega

/-- A deeper limit does not change what is found without reaching it. -/
theorem refines_deeper (plan : Plan) (store : Vector.Store) (depth : Nat) (id : Doc) :
    Refines (· = .circular) Text (compileTask plan store depth id)
      (compileTask plan store (depth + 1) id) := by
  induction depth generalizing id with
  | zero =>
    rw [compileTask_eq_onTask, compileTask_eq_onTask]
    exact (congruence_refines _).onTask fun n task _ _ _ => .inl ⟨_, rfl, rfl⟩
  | succ depth ih =>
    rw [compileTask_eq_onTask, compileTask_eq_onTask]
    exact (congruence_refines _).onTask fun n task _ htask =>
      (congruence_refines _).renderTask_of_calls htask fun called _ => ih called

theorem yields_deeper {depth : Nat} {id : Doc} {r : Except Fault Text} (hr : r ≠ .error .circular)
    (h : Yields (compileTask plan store depth id) r) {deeper : Nat} (hle : depth ≤ deeper) :
    Yields (compileTask plan store deeper id) r := by
  induction hle with
  | refl => exact h
  | @step deeper _ ih =>
    intro console
    obtain ⟨fault, rfl, hfault⟩ | heq := refines_deeper plan store deeper id console
    · exact absurd ((ih console).symm.trans hfault) hr
    · rw [← heq]
      exact ih console

/-! ## Texts without circles -/

/-- The text of a task, where no task may be entered while it is being compiled. -/
def compileWatched (plan : Plan) (store : Vector.Store) : Nat → List Int → Doc → Traced Text
  | 0, _, id => plan.onTask id fun _ _ => throw .circular
  | depth + 1, active, id => plan.onTask id fun number task =>
    if number ∈ active then throw .circular
    else renderTask ⟨store, compileWatched plan store depth (number :: active)⟩ task

/-- Has the task with the number a text when tasks are entered at most so deep? -/
def HasText (plan : Plan) (store : Vector.Store) (depth : Nat) (n : Int) : Prop :=
  ∃ id sql, id.toInt = .ok n ∧ Produces (compileTask plan store depth id) sql

/-- What a task with a text calls for has a text with a smaller limit. -/
theorem HasText.calls {depth : Nat} {m n : Int} (h : plan.HasText store depth m)
    (hcalls : plan.CallsFor m n) : ∃ smaller < depth, plan.HasText store smaller n := by
  obtain ⟨id, sql, hm, hsql⟩ := h
  obtain ⟨task, called, htask, hcalled, hn⟩ := hcalls
  obtain ⟨m', hm', ⟨hmissing, -⟩ | ⟨below, task', rfl, htask', hholds⟩⟩ := produces_compileTask hsql
  · obtain rfl := Except.ok.inj (hm.symm.trans hm')
    rw [htask] at hmissing
    cases hmissing
  · obtain rfl := Except.ok.inj (hm.symm.trans hm')
    obtain rfl := Option.some.inj (htask.symm.trans htask')
    obtain ⟨text, htext, -⟩ := hholds called hcalled
    exact ⟨below, Nat.lt_succ_self below, called, text, hn, htext⟩

theorem HasText.reaches {depth : Nat} {m n : Int} (h : plan.HasText store depth m)
    (hcalls : Relation.TransGen plan.CallsFor m n) :
    ∃ smaller < depth, plan.HasText store smaller n := by
  induction hcalls with
  | single hcalls => exact h.calls hcalls
  | tail _ hcalls ih =>
    obtain ⟨smaller, hsmaller, hn⟩ := ih
    obtain ⟨smallest, hsmallest, hk⟩ := hn.calls hcalls
    exact ⟨smallest, Nat.lt_trans hsmallest hsmaller, hk⟩

/-- A task with a text does not lead back to itself. -/
theorem HasText.no_return {depth : Nat} {n : Int} (h : plan.HasText store depth n) :
    ¬ Relation.TransGen plan.CallsFor n n := by
  -- on the way back the limit has become smaller, and this cannot go on
  induction depth using Nat.strongRecOn with
  | ind depth ih =>
    intro hcalls
    obtain ⟨smaller, hsmaller, hn⟩ := h.reaches hcalls
    exact ih smaller hsmaller hn hcalls

/-- Where a task has a text, nothing is entered again and watching makes no difference. -/
theorem refines_watched (depth : Nat) (id : Doc) (active : List Int)
    (hreach : ∀ n, id.toInt = .ok n → ∀ a ∈ active, Relation.TransGen plan.CallsFor a n) :
    Refines (fun _ => True) Text (compileTask plan store depth id)
      (compileWatched plan store depth active id) := by
  induction depth generalizing id active with
  | zero =>
    rw [compileTask_eq_onTask, compileWatched]
    exact (congruence_refines _).onTask fun n task _ _ _ => .inl ⟨_, trivial, rfl⟩
  | succ depth ih =>
    rw [compileTask_eq_onTask, compileWatched]
    refine (congruence_refines _).onTask fun n task hn htask => ?_
    by_cases hactive : n ∈ active
    · -- the task has no text, for it would lead back to itself
      intro console
      rcases hrun : runIn (entered plan store (depth + 1) task) console with ⟨fault | sql, console'⟩
      · exact .inl ⟨fault, trivial, rfl⟩
      · have htext : plan.HasText store (depth + 1) n := by
          refine ⟨id, sql, hn, console, console', ?_⟩
          rw [compileTask_entered hn htask]
          exact hrun
        exact absurd (hreach n hn n hactive) htext.no_return
    · rw [if_neg hactive]
      refine (congruence_refines _).renderTask_of_calls htask fun called hcalled => ?_
      refine ih called (n :: active) fun k hk => ?_
      have hcalls : plan.CallsFor n k := ⟨task, called, htask, hcalled, hk⟩
      exact List.forall_mem_cons.2 ⟨.single hcalls, fun a ha => (hreach n hn a ha).tail hcalls⟩

end

/-- Compilation ends where there are no circles, and only there. If no task that can be reached from an
id through references reaches itself, then the task has a result, the same with every limit that leaves
room for all tasks of the plan, and it is no circle. And where a task has a text, with any limit, no
task was entered while it was being compiled: watching for that changes nothing. -/
theorem ends_without_circles {d : Doc} {plan : Plan} (hd : d.NoInfinity)
    (hplan : Plan.ofDoc d = .ok plan) (store : Vector.Store) (id : Doc) :
    ((∀ m n, id.toInt = .ok m → Relation.ReflTransGen plan.Refers m n →
        ¬ Relation.TransGen plan.Refers n n) →
      ∃ r, r ≠ .error .circular ∧
        ∀ depth, plan.tasks.length ≤ depth → Yields (compileTask plan store depth id) r) ∧
    ∀ depth console sql console',
      runIn (compileTask plan store depth id) console = (.ok sql, console') →
      runIn (compileWatched plan store depth [] id) console = (.ok sql, console') := by
  refine ⟨fun hacyclic => ?_, fun depth console sql console' hrun => ?_⟩
  · have hspares : Spares Text (compileTask plan store plan.tasks.length id) _ :=
      spares_compileTask (fun m n h => h.refers hd hplan) .nil nofun (fun m hm n => hacyclic m n hm)
        (fun _ _ => nofun) (Nat.le_refl _)
    obtain ⟨r, hr⟩ := settled_compileTask plan store plan.tasks.length id
    have hne : r ≠ .error .circular := fun h => hspares "" ((hr "").trans h)
    exact ⟨r, hne, fun depth hdepth => yields_deeper hne hr hdepth⟩
  · have hwatched : Refines (fun _ => True) Text (compileTask plan store depth id)
        (compileWatched plan store depth [] id) := refines_watched depth id [] fun _ _ => nofun
    obtain ⟨fault, -, hfault⟩ | heq := hwatched console
    · rw [hrun] at hfault
      cases hfault
    · rw [← heq, hrun]

/-- Where tasks refer only to smaller numbers there is no circle. -/
theorem acyclic_of_descending {plan : Plan} (h : ∀ m n, plan.Refers m n → n < m) (m : Int) :
    plan.Acyclic m := by
  have hdescend {a b : Int} (hab : Relation.TransGen plan.Refers a b) : b < a := by
    induction hab with
    | single hab => exact h _ _ hab
    | tail _ hbc ih => exact Int.lt_trans (h _ _ hbc) ih
  exact fun n _ hn => Int.lt_irrefl n (hdescend hn)

/-- A task that puts another one in twice. -/
def chainedTask : List (Text × Doc) :=
  [("task_id", .int 2),
    ("target", .list [.record [("value",
      .record [("type", .text "SUBQUERY"), ("target_task_id", .int 1)])]]),
    ("structural_logic", .list [.record [("type", .text "UNION"), ("target_task_id", .text "1")]])]

def chainedPart : List (Text × Doc) :=
  [("task_id", .int 1), ("main_table", .text "loan")]

/-- A plan whose second task calls for the first one twice. -/
def chainedPlan : Doc :=
  .record [("tasks", .list [.record chainedPart, .record chainedTask])]

def chainedStatement : Text :=
  "(SELECT (SELECT *\nFROM \"loan\")\n ) \nUNION \n(SELECT *\nFROM \"loan\")"

theorem eq_of_refers_chained {m n : Int}
    (h : Refers ⟨[(.int 1, chainedPart), (.int 2, chainedTask)]⟩ m n) : m = 2 ∧ n = 1 := by
  obtain ⟨t, numbers, ht, hnumbers, hn⟩ := h
  have hm := toInt_of_find? ht
  have hmem := List.mem_of_find?_eq_some ht
  simp only [List.mem_cons, List.not_mem_nil, or_false] at hmem
  obtain rfl | rfl := hmem
  · have hnone : references (.record chainedPart) = .ok [] := rfl
    rw [hnone] at hnumbers
    cases hnumbers
    cases hn
  · have hones : (references (.record chainedTask)).toOption = some [1, 1] := by decide +kernel
    obtain rfl : (2 : Int) = m := Except.ok.inj hm
    rw [ok_of_toOption hones] at hnumbers
    cases hnumbers
    exact ⟨rfl, by simpa using hn⟩

theorem refers_chained {m n : Int}
    (h : Refers ⟨[(.int 1, chainedPart), (.int 2, chainedTask)]⟩ m n) : n < m := by
  obtain ⟨rfl, rfl⟩ := eq_of_refers_chained h
  decide

theorem ends_without_circles_chained : ∃ plan, Plan.ofDoc chainedPlan = .ok plan ∧
    (∃ r, r ≠ .error .circular ∧
      ∀ depth, plan.tasks.length ≤ depth → Yields (compileTask plan ⟨[]⟩ depth (.int 2)) r) ∧
    ∃ console, runIn (compileWatched plan ⟨[]⟩ 2 [] (.int 2)) "" = (.ok chainedStatement, console) := by
  have hplan : Plan.ofDoc chainedPlan = .ok ⟨[(.int 1, chainedPart), (.int 2, chainedTask)]⟩ := rfl
  have hrun : (runIn (compileTask ⟨[(.int 1, chainedPart), (.int 2, chainedTask)]⟩ ⟨[]⟩ 2 (.int 2))
      "").1.toOption = some chainedStatement := by decide +kernel
  obtain ⟨hends, hwatched⟩ := ends_without_circles (d := chainedPlan) nofun hplan ⟨[]⟩ (.int 2)
  refine ⟨_, hplan, hends fun m n _ => acyclic_of_descending (fun _ _ => refers_chained) m n, _,
    hwatched 2 "" chainedStatement _ (Prod.ext (ok_of_toOption hrun) rfl)⟩

end Plan

end QueryBench
