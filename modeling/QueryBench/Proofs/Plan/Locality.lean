import QueryBench.Proofs.Plan.Circularity

/-!
# Compiling a task is local

The text of a task depends on its own fields and on the texts of the tasks that it refers to, and on
nothing else in the plan. The limit for entering tasks grows with the plan, so two plans that share some
tasks have different limits. But a plan needs no more room than it has tasks, also to find out that a
task goes in a circle: with every limit beyond that the outcome is the same.

Main definitions: `Plan.Task.Consults`, and `Plan.Strict`, the limit that a task just fails at. Main
statement: `Plan.compilation_local`.
-/
set_option autoImplicit false

namespace QueryBench.Plan

/-! ## What a task consults -/

/-- Can it make a difference to the text of a task what compiling the given id does? A call that is made
always can, for it may fail. -/
def Task.Consults (store : Vector.Store) (task : Task) (id : Doc) : Prop :=
  ∃ f g : Doc → Traced Text, (∀ other, other ≠ id → f other = g other) ∧
    renderTask ⟨store, f⟩ task ≠ renderTask ⟨store, g⟩ task

theorem congruence_eq : Congruence fun α (x y : Traced α) => x = y where
  pure _ := rfl
  say _ := rfl
  part _ := rfl
  bind := by
    rintro α β x _ f g rfl hf
    rw [funext hf]

theorem Task.Consults.mem_leaves {store : Vector.Store} {fields : List (Text × Doc)} {id : Doc}
    (h : (Task.ofFields fields).Consults store id) : .call id ∈ (Task.ofFields fields).leaves := by
  obtain ⟨f, g, hsame, hne⟩ := h
  by_contra hmem
  refine hne (congruence_eq.renderTask fun leaf hleaf => ?_)
  cases leaf with
  | shown d => trivial
  | call called =>
    refine hsame called fun heq => hmem ?_
    rwa [← heq]
  | fault cause => exact fault_ofFields_ne_circular hleaf

/-! ## Plans that share tasks -/

section
variable {plan plan' : Plan} {store : Vector.Store}

theorem compileTask_eq_of_entered {id : Doc} {depth : Nat}
    (hshared : ∀ n, id.toInt = .ok n → plan.find? n = plan'.find? n)
    (h : ∀ n task, id.toInt = .ok n → plan.find? n = some task →
      entered plan store depth task = entered plan' store depth task) :
    compileTask plan store depth id = compileTask plan' store depth id := by
  cases hn : id.toInt with
  | error fault =>
    have hfault (p : Plan) : compileTask p store depth id = throw fault := by
      rw [compileTask_eq, hn]
      rfl
    rw [hfault, hfault]
  | ok n =>
    have hfind := hshared n hn
    cases htask : plan.find? n with
    | none =>
      rw [htask] at hfind
      rw [compileTask_missing hn htask, compileTask_missing hn hfind.symm]
    | some task =>
      rw [htask] at hfind
      rw [compileTask_entered hn htask, compileTask_entered hn hfind.symm]
      exact h n task hn htask

/-- With the same limit, plans that share the tasks of a closed set of numbers compile them alike. -/
theorem compileTask_congr {S : Set Int} (hshared : ∀ n ∈ S, plan.find? n = plan'.find? n)
    (hclosed : ∀ m n, m ∈ S → plan.CallsFor m n → n ∈ S) (depth : Nat) (id : Doc)
    (hid : ∀ n, id.toInt = .ok n → n ∈ S) :
    compileTask plan store depth id = compileTask plan' store depth id := by
  induction depth generalizing id with
  | zero => exact compileTask_eq_of_entered (fun n hn => hshared n (hid n hn)) fun _ _ _ _ => rfl
  | succ depth ih =>
    refine compileTask_eq_of_entered (fun n hn => hshared n (hid n hn)) fun n task hn htask => ?_
    refine congruence_eq.renderTask_of_calls htask fun called hcalled => ih called fun k hk => ?_
    exact hclosed n k (hid n hn) ⟨task, called, htask, hcalled, hk⟩

/-! ## Limits that suffice -/

/-- Have the two computations the same outcome? -/
def Alike (α : Type) (x y : Traced α) : Prop :=
  ∃ r, Yields x r ∧ Yields y r

theorem congruence_alike : Congruence Alike where
  pure a := ⟨_, .pure a, .pure a⟩
  say line := ⟨_, .say line, .say line⟩
  part _ := ⟨_, .lift _, .lift _⟩
  bind := by
    rintro α β x y f g ⟨fault | a, hx, hy⟩ hf
    · exact ⟨_, hx.bind_error, hy.bind_error⟩
    · obtain ⟨r, hfa, hga⟩ := hf a
      exact ⟨r, hx.bind_ok hfa, hy.bind_ok hga⟩

/-- The task with the number goes too deep with the limit, but not with the next one. -/
def Strict (plan : Plan) (store : Vector.Store) (depth : Nat) (n : Int) : Prop :=
  ∃ task, plan.find? n = some task ∧ Yields (entered plan store depth task) (.error .circular) ∧
    ¬ Yields (entered plan store (depth + 1) task) (.error .circular)

theorem settled_entered {n : Int} {task : Task} (htask : plan.find? n = some task)
    (store : Vector.Store) (depth : Nat) : Settled (entered plan store depth task) := by
  have hn : (Doc.int n).toInt = .ok n := rfl
  rw [← compileTask_entered hn htask]
  exact settled_compileTask plan store depth (.int n)

theorem yields_entered_deeper {n : Int} {task : Task} (htask : plan.find? n = some task)
    {depth deeper : Nat} {r : Except Fault Text} (hr : r ≠ .error .circular)
    (h : Yields (entered plan store depth task) r) (hle : depth ≤ deeper) :
    Yields (entered plan store deeper task) r := by
  have hn : (Doc.int n).toInt = .ok n := rfl
  rw [← compileTask_entered hn htask] at h ⊢
  exact yields_deeper hr h hle

theorem circular_of_le {n : Int} {task : Task} (htask : plan.find? n = some task) {depth deeper : Nat}
    (h : Yields (entered plan store deeper task) (.error .circular)) (hle : depth ≤ deeper) :
    Yields (entered plan store depth task) (.error .circular) := by
  obtain ⟨r, hr⟩ := settled_entered htask store depth
  by_cases hne : r = .error .circular
  · rwa [← hne]
  · exact absurd ((yields_entered_deeper htask hne hr hle).eq h) hne

theorem alike_entered {n : Int} {task : Task} (htask : plan.find? n = some task) {depth : Nat}
    (h : ¬ plan.Strict store depth n) :
    Alike Text (entered plan store depth task) (entered plan store (depth + 1) task) := by
  obtain ⟨r, hr⟩ := settled_entered htask store depth
  by_cases hne : r = .error .circular
  · subst hne
    exact ⟨_, hr, by_contra fun hnext => h ⟨task, htask, hr, hnext⟩⟩
  · exact ⟨r, hr, yields_entered_deeper htask hne hr (Nat.le_succ depth)⟩

/-- A task fails at a limit for the sake of another one that fails at the limit before. -/
theorem Strict.pred {depth : Nat} {n : Int} (h : plan.Strict store (depth + 1) n) :
    ∃ m, plan.Strict store depth m := by
  obtain ⟨task, htask, hcircular, hnext⟩ := h
  by_contra hnone
  -- otherwise each call of the task would have the same outcome with both limits
  have halike : Alike Text (entered plan store (depth + 1) task)
      (entered plan store (depth + 2) task) :=
    congruence_alike.renderTask_of_calls htask fun called _ => by
      rw [compileTask_eq_onTask, compileTask_eq_onTask]
      exact congruence_alike.onTask fun m task' _ htask' =>
        alike_entered htask' fun hm => hnone ⟨m, hm⟩
  obtain ⟨r, hr, hr'⟩ := halike
  rw [hr.eq hcircular] at hr'
  exact hnext hr'

theorem Strict.unique {i j : Nat} {n : Int} (hi : plan.Strict store i n) (hj : plan.Strict store j n) :
    j ≤ i := by
  obtain ⟨task, htask, -, hnext⟩ := hi
  obtain ⟨task', htask', hcircular, -⟩ := hj
  obtain rfl := Option.some.inj (htask.symm.trans htask')
  by_contra hlt
  exact hnext (circular_of_le htask hcircular (by omega))

/-- So there are as many tasks as limits up to one that some task just fails at. -/
theorem Strict.lt_length {depth : Nat} {n : Int} (h : plan.Strict store depth n) :
    depth < plan.tasks.length := by
  -- by `pred` there is a task for each limit down to zero, and by `unique` no two are the same
  have hchain : ∃ numbers : List Int, numbers.length = depth + 1 ∧ numbers.Nodup ∧
      ∀ m ∈ numbers, ∃ i ≤ depth, plan.Strict store i m := by
    induction depth generalizing n with
    | zero => exact ⟨[n], rfl, by simp, by simpa using h⟩
    | succ depth ih =>
      obtain ⟨m, hm⟩ := h.pred
      obtain ⟨numbers, hlength, hnodup, hstrict⟩ := ih hm
      have hnew : n ∉ numbers := by
        intro hn
        obtain ⟨i, hi, hni⟩ := hstrict n hn
        have hle := hni.unique h
        omega
      refine ⟨n :: numbers, by rw [List.length_cons, hlength], List.nodup_cons.2 ⟨hnew, hnodup⟩,
        List.forall_mem_cons.2 ⟨⟨depth + 1, Nat.le_refl _, h⟩, fun k hk => ?_⟩⟩
      obtain ⟨i, hi, hki⟩ := hstrict k hk
      exact ⟨i, Nat.le_succ_of_le hi, hki⟩
  obtain ⟨numbers, hlength, hnodup, hstrict⟩ := hchain
  have hpresent : ∀ m ∈ numbers, (plan.find? m).isSome := by
    intro m hm
    obtain ⟨i, -, task, htask, -⟩ := hstrict m hm
    rw [htask]
    rfl
  have hle := length_le_of_present hnodup hpresent
  omega

/-- With room for every task of the plan, more room changes no outcome. -/
theorem yields_of_room {id : Doc} {r : Except Fault Text}
    (h : Yields (compileTask plan store plan.tasks.length id) r) {depth : Nat}
    (hle : plan.tasks.length ≤ depth) : Yields (compileTask plan store depth id) r := by
  induction hle with
  | refl => exact h
  | @step depth hle ih =>
    have halike : Alike Text (compileTask plan store depth id)
        (compileTask plan store (depth + 1) id) := by
      rw [compileTask_eq_onTask, compileTask_eq_onTask]
      refine congruence_alike.onTask fun n task _ htask => alike_entered htask fun hstrict => ?_
      have hlt := hstrict.lt_length
      have hle : plan.tasks.length ≤ depth := hle
      omega
    obtain ⟨r', hr, hr'⟩ := halike
    rwa [ih.eq hr]

end

/-- The references of a task cover what it consults, so compiling is local: two plans that share the
tasks of some numbers, with all that these refer to, give the same outcome for each of the numbers. -/
theorem compilation_local (store : Vector.Store) :
    (∀ fields, Doc.NoInfinity (.record fields) →
      ∃ numbers, references (.record fields) = .ok numbers ∧
        ∀ id n, (Task.ofFields fields).Consults store id → id.toInt = .ok n → n ∈ numbers) ∧
    ∀ (plan plan' : Plan) (S : Set Int), (∀ t ∈ plan.tasks, Doc.NoInfinity (.record t.2)) →
      (∀ n ∈ S, (plan.tasks.find? fun t => t.1.same (.int n)).map Prod.snd =
        (plan'.tasks.find? fun t => t.1.same (.int n)).map Prod.snd) →
      (∀ m ∈ S, ∀ n, plan.Refers m n → n ∈ S) →
      ∀ id n, id.toInt = .ok n → n ∈ S →
        ∃ r, Yields (compileTask plan store plan.tasks.length id) r ∧
          Yields (compileTask plan' store plan'.tasks.length id) r := by
  constructor
  · intro fields hfields
    obtain ⟨numbers, hnumbers, hcalls⟩ := references_of_calls hfields
    exact ⟨numbers, hnumbers, fun id n hid hn => hcalls id n hid.mem_leaves hn⟩
  · intro plan plan' S hfinite hshared hclosed id n hn hS
    have hfind (m : Int) (hm : m ∈ S) : plan.find? m = plan'.find? m := by
      have h := congrArg (Option.map Task.ofFields) (hshared m hm)
      rwa [Option.map_map, Option.map_map] at h
    have hcalls (m k : Int) (hm : m ∈ S) (h : plan.CallsFor m k) : k ∈ S := by
      obtain ⟨task, called, htask, hcalled, hk⟩ := h
      obtain ⟨t, ht, rfl⟩ := Option.map_eq_some_iff.1 htask
      obtain ⟨numbers, hnumbers, hmem⟩ :=
        references_of_calls (hfinite t (List.mem_of_find?_eq_some ht))
      exact hclosed m hm k ⟨t, numbers, ht, hnumbers, hmem called k hcalled hk⟩
    -- the two limits differ, so compare both outcomes with those at a limit that suffices for both
    obtain ⟨r, hr⟩ := settled_compileTask plan store plan.tasks.length id
    obtain ⟨r', hr'⟩ := settled_compileTask plan' store plan'.tasks.length id
    have hdeep := yields_of_room hr (Nat.le_max_left plan.tasks.length plan'.tasks.length)
    have hdeep' := yields_of_room hr' (Nat.le_max_right plan.tasks.length plan'.tasks.length)
    have hid (m : Int) (hm : id.toInt = .ok m) : m ∈ S := Except.ok.inj (hn.symm.trans hm) ▸ hS
    rw [compileTask_congr hfind hcalls _ id hid] at hdeep
    rw [hdeep'.eq hdeep] at hr'
    exact ⟨r, hr, hr'⟩

/-- The plan that the task and its part come from may have other tasks, even in circles. -/
def widerPlan : Plan :=
  ⟨[(.int 2, chainedTask),
    (.int 3, [("task_id", .int 3), ("structural_logic",
      .list [.record [("type", .text "UNION"), ("target_task_id", .int 3)]])]),
    (.int 1, chainedPart)]⟩

/-- Texts of tasks that say something for one id only. -/
def onlyText (text : Text) : Doc → Traced Text
  | .text s => pure (if s = "1" then text else "")
  | _ => pure ""

theorem consults_chained : (Task.ofFields chainedTask).Consults ⟨[]⟩ (.text "1") := by
  refine ⟨onlyText "", onlyText "x", fun other hother => ?_, fun h => ?_⟩
  · cases other with
    | text s =>
      have hs : s ≠ "1" := fun hs => hother (congrArg Doc.text hs)
      rw [onlyText, onlyText, if_neg hs, if_neg hs]
    | _ => rfl
  · have hrun := congrArg (fun act : Traced Text => (runIn act "").1.toOption) h
    revert hrun
    decide +kernel

theorem compilation_local_chained :
    (∃ numbers, references (.record chainedTask) = .ok numbers ∧ 1 ∈ numbers) ∧
      Yields (compileTask widerPlan ⟨[]⟩ 3 (.text "2")) (.ok chainedStatement) := by
  obtain ⟨hcovers, hlocal⟩ := compilation_local ⟨[]⟩
  constructor
  · obtain ⟨numbers, hnumbers, hmem⟩ := hcovers chainedTask nofun
    exact ⟨numbers, hnumbers, hmem (.text "1") 1 consults_chained rfl⟩
  · have hrun : (runIn (compileTask ⟨[(.int 1, chainedPart), (.int 2, chainedTask)]⟩ ⟨[]⟩ 2 (.text "2"))
        "").1.toOption = some chainedStatement := by decide +kernel
    have hfinite : ∀ t ∈ [(Doc.int 1, chainedPart), (Doc.int 2, chainedTask)],
        Doc.NoInfinity (.record t.2) := by
      simp only [List.forall_mem_cons]
      exact ⟨nofun, nofun, nofun⟩
    have hshared : ∀ n ∈ ({1, 2} : Set Int),
        ([(Doc.int 1, chainedPart), (.int 2, chainedTask)].find? fun t => t.1.same (.int n)).map Prod.snd =
          (widerPlan.tasks.find? fun t => t.1.same (.int n)).map Prod.snd := by
      rintro n (rfl | rfl) <;> rfl
    obtain ⟨r, hr, hwider⟩ := hlocal ⟨[(.int 1, chainedPart), (.int 2, chainedTask)]⟩ widerPlan {1, 2}
      hfinite hshared (fun m _ n h => .inl (eq_of_refers_chained h).2) (.text "2") 2 rfl (.inr rfl)
    obtain rfl : r = .ok chainedStatement := (hr "").symm.trans (ok_of_toOption hrun)
    exact hwider

end QueryBench.Plan
