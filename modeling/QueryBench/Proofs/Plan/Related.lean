import QueryBench.Proofs.Plan.Calls

/-!
# Rendering with other tasks under the hood

The text of a task depends on those of the tasks it calls for. Where two ways to make these are related,
by a relation that goes along with putting computations together, so are the texts of the task.

Main definitions: `Plan.Congruence` and its instances `Plan.Refines`, where one computation goes like
another one unless it fails in certain ways, and `Plan.Spares`, where it does not end in a circle. Main
statements: `Plan.Congruence.renderTask` and `Plan.Congruence.onTask`.
-/
set_option autoImplicit false

namespace QueryBench.Plan

/-- A relation between computations that goes along with putting them together. -/
structure Congruence (R : (α : Type) → Traced α → Traced α → Prop) : Prop where
  pure {α : Type} (a : α) : R α (pure a) (pure a)
  say (line : Text) : R Unit (say line) (say line)
  part {α : Type} {x : Part α} : Sound (fun _ => True) x → R α (liftM x) (liftM x)
  bind {α β : Type} {x y : Traced α} {f g : α → Traced β} :
    R α x y → (∀ a, R β (f a) (g a)) → R β (x >>= f) (y >>= g)

/-- Are the two texts of a called task related, and is no fault a circle? -/
def Leaf.Related (R : (α : Type) → Traced α → Traced α → Prop) (f g : Doc → Traced Text) : Leaf → Prop
  | .shown _ => True
  | .call task => R Text (f task) (g task)
  | .fault cause => cause ≠ .circular

theorem sound_callText (name : Text) (arguments : List Doc) :
    Sound (fun _ => True) (callText name arguments) := by
  have hplain : Sound (fun _ => True) (callText.plainCall name arguments) :=
    (sound_joined _ _).bind fun _ _ => trivial
  unfold callText
  split
  · split
    · exact (sound_textFor _ _).bind fun _ _ => trivial
    · exact hplain
  · split
    · trivial
    · exact hplain
  · exact hplain

namespace Congruence
variable {R : (α : Type) → Traced α → Traced α → Prop} {store : Vector.Store}
  {f g : Doc → Traced Text}

theorem throw (hR : Congruence R) {α : Type} {fault : Fault} (hfault : fault ≠ .circular) :
    R α (MonadExcept.throw fault) (MonadExcept.throw fault) :=
  hR.part (x := .error fault) hfault

theorem mapM (hR : Congruence R) {α β : Type} {xs : List α} {f g : α → Traced β}
    (h : ∀ a ∈ xs, R β (f a) (g a)) : R (List β) (xs.mapM f) (xs.mapM g) := by
  induction xs with
  | nil =>
    rw [List.mapM_nil, List.mapM_nil]
    exact hR.pure []
  | cons a xs ih =>
    obtain ⟨ha, hxs⟩ := List.forall_mem_cons.1 h
    rw [List.mapM_cons, List.mapM_cons]
    exact hR.bind ha fun b => hR.bind (ih hxs) fun bs => hR.pure (b :: bs)

theorem search (hR : Congruence R) (table column query operator count : Doc) :
    R _ (Vector.search store table column query operator count)
      (Vector.search store table column query operator count) := by
  unfold Vector.search Vector.reportFailure
  split
  · exact hR.pure _
  · exact hR.bind (hR.say _) fun _ => hR.pure _

/-! ## Values and conditions -/

mutual

theorem renderValue (hR : Congruence R) (operator : Doc) {v : Value}
    (hv : AllLeaves (Leaf.Related R f g) v.leaves) :
    R Doc (Plan.renderValue ⟨store, f⟩ operator v) (Plan.renderValue ⟨store, g⟩ operator v) := by
  match v with
  | .null | .literal content | .column name =>
    rw [Plan.renderValue, Plan.renderValue]
    exact hR.pure _
  | .call name arguments =>
    rw [Plan.renderValue, Plan.renderValue]
    exact hR.bind (renderValues hR (List.forall_mem_cons.1 hv).2) fun texts =>
      hR.bind (hR.part (sound_callText name texts)) fun call => hR.pure _
  | .choice arms otherwise =>
    rw [Plan.renderValue, Plan.renderValue]
    obtain ⟨harms, hotherwise⟩ := List.forall_mem_append.1 hv
    exact hR.bind (renderArms hR harms) fun cases =>
      hR.bind (renderOtherwise hR hotherwise) fun last => hR.pure _
  | .condition c =>
    rw [Plan.renderValue, Plan.renderValue]
    exact hR.bind (renderCondition hR hv) fun text => hR.pure _
  | .semantic table column term =>
    rw [Plan.renderValue, Plan.renderValue]
    exact hR.bind (hR.search _ _ _ _ _) fun found => hR.pure _
  | .subquery task =>
    rw [Plan.renderValue, Plan.renderValue]
    exact hR.bind (hv (.call task) List.mem_cons_self) fun text => hR.pure _
  | .faulty fault =>
    rw [Plan.renderValue, Plan.renderValue]
    exact hR.throw (hv (.fault fault) List.mem_cons_self)

theorem renderValues (hR : Congruence R) {vs : List Value}
    (hvs : AllLeaves (Leaf.Related R f g) (Value.leavesOfAll vs)) :
    R (List Doc) (Plan.renderValues ⟨store, f⟩ vs) (Plan.renderValues ⟨store, g⟩ vs) := by
  match vs with
  | [] =>
    rw [Plan.renderValues, Plan.renderValues]
    exact hR.pure []
  | v :: rest =>
    rw [Plan.renderValues, Plan.renderValues]
    obtain ⟨hv, hrest⟩ := List.forall_mem_append.1 hvs
    exact hR.bind (renderValue hR _ hv) fun d => hR.bind (renderValues hR hrest) fun ds => hR.pure _

theorem renderArms (hR : Congruence R) {arms : List Arm}
    (harms : AllLeaves (Leaf.Related R f g) (Arm.leavesOfAll arms)) :
    R (List Text) (Plan.renderArms ⟨store, f⟩ arms) (Plan.renderArms ⟨store, g⟩ arms) := by
  match arms with
  | [] =>
    rw [Plan.renderArms, Plan.renderArms]
    exact hR.pure []
  | .mk test result :: rest =>
    rw [Plan.renderArms, Plan.renderArms]
    obtain ⟨htest, hbehind⟩ := List.forall_mem_append.1 harms
    obtain ⟨hresult, hrest⟩ := List.forall_mem_append.1 hbehind
    exact hR.bind (renderValue hR _ htest) fun test => hR.bind (renderValue hR _ hresult) fun result =>
      hR.bind (renderArms hR hrest) fun texts => hR.pure _

theorem renderOtherwise (hR : Congruence R) {otherwise : Option Value}
    (hotherwise : AllLeaves (Leaf.Related R f g) (Value.leavesOfOption otherwise)) :
    R Text (Plan.renderOtherwise ⟨store, f⟩ otherwise) (Plan.renderOtherwise ⟨store, g⟩ otherwise) := by
  match otherwise with
  | none =>
    rw [Plan.renderOtherwise, Plan.renderOtherwise]
    exact hR.pure _
  | some v =>
    rw [Plan.renderOtherwise, Plan.renderOtherwise]
    exact hR.bind (renderValue hR _ hotherwise) fun d => hR.pure _

theorem renderCondition (hR : Congruence R) {c : Condition}
    (hc : AllLeaves (Leaf.Related R f g) c.leaves) :
    R Text (Plan.renderCondition ⟨store, f⟩ c) (Plan.renderCondition ⟨store, g⟩ c) := by
  match c with
  | .group connective parts =>
    rw [Plan.renderCondition, Plan.renderCondition]
    exact hR.bind (renderConditions hR (List.forall_mem_cons.1 hc).2) fun texts => hR.pure _
  | .compare operator left right =>
    rw [Plan.renderCondition, Plan.renderCondition]
    obtain ⟨hleft, hright⟩ := List.forall_mem_append.1 (List.forall_mem_cons.1 hc).2
    exact hR.bind (renderValue hR _ hleft) fun left =>
      hR.bind (renderValue hR _ hright) fun right => hR.pure _
  | .faulty fault =>
    rw [Plan.renderCondition, Plan.renderCondition]
    exact hR.throw (hc (.fault fault) List.mem_cons_self)

theorem renderConditions (hR : Congruence R) {cs : List Condition}
    (hcs : AllLeaves (Leaf.Related R f g) (Condition.leavesOfAll cs)) :
    R (List Text) (Plan.renderConditions ⟨store, f⟩ cs) (Plan.renderConditions ⟨store, g⟩ cs) := by
  match cs with
  | [] =>
    rw [Plan.renderConditions, Plan.renderConditions]
    exact hR.pure []
  | c :: rest =>
    rw [Plan.renderConditions, Plan.renderConditions]
    obtain ⟨hc, hrest⟩ := List.forall_mem_append.1 hcs
    exact hR.bind (renderCondition hR hc) fun text =>
      hR.bind (renderConditions hR hrest) fun texts => hR.pure _

end

/-! ## Clauses -/

theorem withPart (hR : Congruence R) {α β : Type} {leaves : α → List Leaf} {part : Part α}
    (hpart : AllLeaves (Leaf.Related R f g) (leavesOfPart leaves part)) {x y : α → Traced β}
    (h : ∀ a, AllLeaves (Leaf.Related R f g) (leaves a) → R β (x a) (y a)) :
    R β (liftM part >>= x) (liftM part >>= y) := by
  cases part with
  | error cause =>
    -- the computation ends with the fault, whatever would come after it
    exact hR.throw (hpart (.fault cause) List.mem_cons_self)
  | ok a => exact h a hpart

theorem renderOutput (hR : Congruence R) {item : Output}
    (hitem : AllLeaves (Leaf.Related R f g) item.leaves) :
    R Doc (Plan.renderOutput ⟨store, f⟩ item) (Plan.renderOutput ⟨store, g⟩ item) :=
  hR.bind (renderValue hR _ (List.forall_mem_append.1 hitem).1) fun _ => hR.pure _

theorem renderTarget (hR : Congruence R) {distinct : Part Bool} {target : Target}
    (hdistinct : AllLeaves (Leaf.Related R f g) (leavesOfPart (fun _ => []) distinct))
    (htarget : AllLeaves (Leaf.Related R f g) target.leaves) :
    R Text (Plan.renderTarget ⟨store, f⟩ distinct target)
      (Plan.renderTarget ⟨store, g⟩ distinct target) := by
  refine hR.withPart hdistinct fun distinct _ => ?_
  cases target with
  | all => exact hR.pure _
  | outputs items =>
    refine hR.withPart htarget fun outputs houtputs => ?_
    exact hR.bind (hR.mapM fun item hitem =>
      hR.renderOutput (List.forall_mem_flatMap.1 houtputs item hitem)) fun columns =>
      hR.bind (hR.part (sound_joined _ columns)) fun list => hR.pure _

theorem renderJoin (hR : Congruence R) {j : Join} (hj : AllLeaves (Leaf.Related R f g) j.leaves) :
    R Text (Plan.renderJoin ⟨store, f⟩ j) (Plan.renderJoin ⟨store, g⟩ j) := by
  obtain ⟨hnames, hon⟩ := List.forall_mem_append.1 hj
  obtain ⟨hkind, htable⟩ := List.forall_mem_append.1 hnames
  exact hR.withPart htable fun table _ => hR.bind (hR.renderCondition hon) fun condition =>
    hR.withPart hkind fun kind _ => hR.pure _

theorem renderJoins (hR : Congruence R) {joins : List Join}
    (hjoins : ∀ j ∈ joins, AllLeaves (Leaf.Related R f g) j.leaves) :
    R Text (Plan.renderJoins ⟨store, f⟩ joins) (Plan.renderJoins ⟨store, g⟩ joins) :=
  hR.bind (hR.mapM fun j hj => hR.renderJoin (hjoins j hj)) fun _ => hR.pure _

theorem renderFilter (hR : Congruence R) (keyword : Text) {c : Option Condition}
    (hc : AllLeaves (Leaf.Related R f g) (leavesOfOption Condition.leaves c)) :
    R Text (Plan.renderFilter ⟨store, f⟩ keyword c) (Plan.renderFilter ⟨store, g⟩ keyword c) := by
  cases c with
  | none => exact hR.pure _
  | some c => exact hR.bind (hR.renderCondition hc) fun text => hR.pure _

theorem renderOrder (hR : Congruence R) {keys : Option (Part (List SortKey))}
    (hkeys : AllLeaves (Leaf.Related R f g)
      (leavesOfOption (leavesOfPart (·.flatMap SortKey.leaves)) keys)) :
    R Text (Plan.renderOrder ⟨store, f⟩ keys) (Plan.renderOrder ⟨store, g⟩ keys) := by
  cases keys with
  | none => exact hR.pure _
  | some keys =>
    refine hR.withPart hkeys fun items hitems => hR.bind (hR.mapM fun key hkey => ?_) fun _ =>
      hR.pure _
    have hkey := List.forall_mem_flatMap.1 hitems key hkey
    exact hR.bind (hR.renderValue _ (List.forall_mem_cons.1 hkey).2) fun d => hR.pure _

theorem renderSetOperations (hR : Congruence R) (sql : Text) {operations : List SetOperation}
    (hoperations : ∀ s ∈ operations, AllLeaves (Leaf.Related R f g) s.leaves) :
    R Text (Plan.renderSetOperations ⟨store, f⟩ sql operations)
      (Plan.renderSetOperations ⟨store, g⟩ sql operations) := by
  induction operations generalizing sql with
  | nil => exact hR.pure sql
  | cons s rest ih =>
    obtain ⟨hs, hrest⟩ := List.forall_mem_cons.1 hoperations
    exact hR.withPart (List.forall_mem_cons.1 hs).2 fun task htask =>
      hR.bind (htask (.call task) List.mem_cons_self) fun other => ih _ hrest

/-- The text of a task is made alike if those of the tasks that it calls for are. -/
theorem renderTask (hR : Congruence R) {task : Task}
    (htask : AllLeaves (Leaf.Related R f g) task.leaves) :
    R Text (Plan.renderTask ⟨store, f⟩ task) (Plan.renderTask ⟨store, g⟩ task) := by
  unfold Task.leaves at htask
  simp only [AllLeaves, List.forall_mem_append] at htask
  obtain ⟨⟨⟨⟨⟨⟨⟨⟨hlinks, hdistinct⟩, htarget⟩, htable⟩, hfilter⟩, hgrouping⟩, hhaving⟩, horder⟩, -⟩ :=
    htask
  have hfrom : R Text (renderFrom task.table) (renderFrom task.table) := by
    revert htable
    cases task.table with
    | none => exact fun _ => hR.pure _
    | some table => exact fun htable => hR.withPart htable fun _ _ => hR.pure _
  have hgroup : R Text (renderGrouping task.grouping) (renderGrouping task.grouping) := by
    revert hgrouping
    cases task.grouping with
    | none => exact fun _ => hR.pure _
    | some columns => exact fun hgrouping => hR.withPart hgrouping fun _ _ => hR.pure _
  refine hR.withPart hlinks fun links hlinks => ?_
  exact hR.bind (hR.renderTarget hdistinct htarget) fun select => hR.bind hfrom fun source =>
    hR.bind (hR.renderJoins (allLeaves_joins hlinks)) fun joins =>
    hR.bind (hR.renderFilter _ hfilter) fun filter => hR.bind hgroup fun grouping =>
    hR.bind (hR.renderFilter _ hhaving) fun having => hR.bind (hR.renderOrder horder) fun order =>
    hR.renderSetOperations _ (allLeaves_setOperations hlinks)

theorem renderTask_of_calls (hR : Congruence R) {plan : Plan} {n : Int} {task : Task}
    (htask : plan.find? n = some task)
    (h : ∀ called, .call called ∈ task.leaves → R Text (f called) (g called)) :
    R Text (Plan.renderTask ⟨store, f⟩ task) (Plan.renderTask ⟨store, g⟩ task) := by
  refine hR.renderTask fun leaf hleaf => ?_
  cases leaf with
  | shown d => trivial
  | call called => exact h called hleaf
  | fault cause => exact fault_ne_circular htask hleaf

end Congruence

/-! ## Tasks by id -/

theorem sound_toInt (d : Doc) : Sound (fun _ => True) d.toInt := by
  cases d with
  | bool b => trivial
  | int n => trivial
  | real x =>
    rw [Doc.toInt]
    split
    · trivial
    · split <;> exact nofun
  | text s =>
    rw [Doc.toInt]
    split
    · trivial
    · exact nofun
    · exact nofun
  | _ => exact nofun

/-- What is done for an id: a task that is not there is noted, and another one is entered. -/
def onTask (plan : Plan) (id : Doc) (enter : Int → Task → Traced Text) : Traced Text := do
  let number ← id.toInt
  match plan.find? number with
  | none => return missingTask id
  | some task => enter number task

theorem compileTask_eq_onTask (plan : Plan) (store : Vector.Store) (depth : Nat) (id : Doc) :
    compileTask plan store depth id = plan.onTask id fun _ => entered plan store depth :=
  compileTask_eq plan store depth id

theorem Congruence.onTask {R : (α : Type) → Traced α → Traced α → Prop} (hR : Congruence R)
    {plan : Plan} {id : Doc} {enter enter' : Int → Task → Traced Text}
    (h : ∀ n task, id.toInt = .ok n → plan.find? n = some task →
      R Text (enter n task) (enter' n task)) :
    R Text (plan.onTask id enter) (plan.onTask id enter') := by
  have hsound := sound_toInt id
  unfold Plan.onTask
  cases hnumber : id.toInt with
  | error fault =>
    rw [hnumber] at hsound
    exact hR.throw hsound
  | ok n =>
    show R Text
      (match plan.find? n with | none => Pure.pure (missingTask id) | some task => enter n task)
      (match plan.find? n with | none => Pure.pure (missingTask id) | some task => enter' n task)
    cases htask : plan.find? n with
    | none => exact hR.pure _
    | some task => exact h n task hnumber htask

/-! ## Relations -/

/-- Goes the first computation like the second one, unless it fails with a fault that may be lost? -/
def Refines (lost : Fault → Prop) (α : Type) (x y : Traced α) : Prop :=
  ∀ console, (∃ fault, lost fault ∧ (runIn x console).1 = .error fault) ∨
    runIn x console = runIn y console

theorem congruence_refines (lost : Fault → Prop) : Congruence (Refines lost) where
  pure _ _ := .inr rfl
  say _ _ := .inr rfl
  part _ _ := .inr rfl
  bind {α β x y f g} hx hf console := by
    rw [run_bind, run_bind]
    obtain ⟨fault, hlost, hfault⟩ | heq := hx console
    · rcases hrun : runIn x console with ⟨r, console'⟩
      rw [hrun] at hfault
      obtain rfl : r = .error fault := hfault
      exact .inl ⟨fault, hlost, rfl⟩
    · rw [heq]
      rcases runIn y console with ⟨fault | a, console'⟩
      · exact .inr rfl
      · exact hf a console'

/-- Does the first computation not end in a circle? -/
def Spares (α : Type) (x _y : Traced α) : Prop :=
  ∀ console, (runIn x console).1 ≠ .error .circular

theorem congruence_spares : Congruence Spares where
  pure _ _ := nofun
  say _ _ := nofun
  part {α x} hx console := by
    cases x with
    | error cause => exact fun h => hx (Except.error.inj h)
    | ok a => exact nofun
  bind {α β x y f g} hx hf console := by
    rw [run_bind]
    have hfirst := hx console
    rcases hrun : runIn x console with ⟨fault | a, console'⟩
    · rw [hrun] at hfirst
      exact fun h => hfirst (congrArg Except.error (Except.error.inj h))
    · exact hf a console'

end QueryBench.Plan
