import Mathlib.Data.List.Find
import Mathlib.Data.List.Infix
import Mathlib.Data.List.Pairwise
import Mathlib.Data.List.Perm.Basic
import Mathlib.Data.Set.List
import QueryBench.Proofs.Plan.Locality

/-!
# The root of a plan

A plan begins with the greatest id that no task refers to, at any depth and whether or not the
compiler ever looks there. Where all ids are referred to, it begins with the last of them. Of
several tasks with one id the last one counts, and it stands where the first one stood. So where no
id is repeated and one of them is free, the order of the tasks makes no difference to the statement.

Main definitions: `Doc.Targets`, `Plan.lastTask?`, `Plan.Free`. Main statement:
`Plan.root_selected`.
-/
set_option autoImplicit false

namespace QueryBench

/-! ## References at any depth -/

/-- A record in the document, at any depth, has a target that stands for the number. What stands for
no number, null among it, is no reference. -/
inductive Doc.Targets (n : Int) : Doc → Prop where
  | own {fields : List (Text × Doc)} {target : Doc}
      (hfind : Doc.find? fields "target_task_id" = some target) (hn : target.toInt = .ok n) :
      Targets n (.record fields)
  | item {items : List Doc} {d : Doc} (hd : d ∈ items) (h : Targets n d) : Targets n (.list items)
  | field {fields : List (Text × Doc)} {f : Text × Doc} (hf : f ∈ fields) (h : Targets n f.2) :
      Targets n (.record fields)

namespace Plan

/-- The number of the target of a record, if it has one. -/
def targetOf? (fields : List (Text × Doc)) : Option Int :=
  (Doc.find? fields "target_task_id").bind fun target => target.toInt.toOption

theorem targetOf?_eq_some {fields : List (Text × Doc)} {n : Int} :
    targetOf? fields = some n ↔
      ∃ target, Doc.find? fields "target_task_id" = some target ∧ target.toInt = .ok n := by
  unfold targetOf?
  rw [Option.bind_eq_some_iff]
  refine exists_congr fun target => and_congr_right fun _ => ⟨ok_of_toOption, fun hn => ?_⟩
  rw [hn]
  rfl

theorem ownReference_eq {fields : List (Text × Doc)} (hfields : Doc.NoInfinity (.record fields)) :
    ownReference fields = .ok (targetOf? fields).toList := by
  unfold ownReference targetOf?
  split
  next hfind =>
    rw [hfind]
    rfl
  next hfind =>
    rw [hfind]
    rfl
  next target _ hfind =>
    rw [hfind, Option.bind_some]
    split
    next n hn =>
      rw [hn]
      rfl
    next hn =>
      obtain ⟨before, behind, rfl, -⟩ := List.lookup_eq_some_iff.1 hfind
      exact absurd hn (Doc.toInt_ne_infinite
        (Doc.noInfinity_record.1 hfields ("target_task_id", target) (by simp)))
    next hn =>
      rw [hn]
      rfl

theorem lists_ok {A : Int → Prop} {numbers : List Int} :
    Lists A (.ok numbers) ↔ ∀ n ∈ numbers, A n := by
  constructor
  · rintro ⟨_, heq, h⟩
    cases heq
    exact h
  · exact fun h => ⟨numbers, rfl, h⟩

/-- The references of a document are the targets in it. -/
theorem lists_ne_iff {d : Doc} (hd : d.NoInfinity) (n : Int) :
    Lists (· ≠ n) (references d) ↔ ¬ d.Targets n := by
  induction d using Doc.nested with
  | list items ih =>
    have hitems := Doc.noInfinity_list.1 hd
    rw [lists_items]
    constructor
    · rintro h (_ | ⟨hmem, htargets⟩)
      exact (ih _ hmem (hitems _ hmem)).1 (h _ hmem) htargets
    · intro h d hmem
      exact (ih d hmem (hitems d hmem)).2 fun htargets => h (.item hmem htargets)
  | record fields ih =>
    have hfields := Doc.noInfinity_record.1 hd
    rw [lists_fields, ownReference_eq hd, lists_ok]
    constructor
    · rintro ⟨hown, hinner⟩ (⟨hfind, hn⟩ | _ | ⟨hf, htargets⟩)
      · have hmem := Option.mem_toList.2 (targetOf?_eq_some.2 ⟨_, hfind, hn⟩)
        exact hown n hmem rfl
      · exact (ih _ hf (hfields _ hf)).1 (hinner _ hf) htargets
    · intro h
      refine ⟨fun m hm heq => ?_, fun f hf => (ih f hf (hfields f hf)).2 fun htargets => ?_⟩
      · obtain ⟨target, hfind, hn⟩ := targetOf?_eq_some.1 (Option.mem_toList.1 hm)
        exact h (.own hfind (heq ▸ hn))
      · exact h (.field hf htargets)
  | _ => exact ⟨fun _ => nofun, fun _ => lists_nil⟩

theorem mem_references {d : Doc} (hd : d.NoInfinity) {numbers : List Int}
    (h : references d = .ok numbers) (n : Int) : n ∈ numbers ↔ d.Targets n := by
  have hiff := lists_ne_iff hd n
  rw [h, lists_ok] at hiff
  constructor
  · intro hn
    by_contra htargets
    exact hiff.2 htargets n hn rfl
  · intro htargets
    by_contra hn
    exact hiff.1 (fun m hm heq => hn (heq ▸ hm)) htargets

theorem targets_tasks {tasks : List (Doc × List (Text × Doc))}
    (hfinite : ∀ t ∈ tasks, Doc.NoInfinity (.record t.2)) :
    ∃ referenced, (Plan.mk tasks).allReferences = .ok referenced ∧
      ∀ n, n ∈ referenced ↔ ∃ t ∈ tasks, Doc.Targets n (.record t.2) := by
  have hall : ∃ all, tasks.mapM (fun t => references (.record t.2)) = .ok all ∧
      ∀ n, n ∈ all.flatten ↔ ∃ t ∈ tasks, Doc.Targets n (.record t.2) := by
    induction tasks with
    | nil => exact ⟨[], rfl, by simp⟩
    | cons t tasks ih =>
      obtain ⟨ht, htasks⟩ := List.forall_mem_cons.1 hfinite
      obtain ⟨here, hhere, -⟩ := references_ok ht
      obtain ⟨all, hall, hmem⟩ := ih htasks
      refine ⟨here :: all, ?_, fun n => ?_⟩
      · rw [List.mapM_cons, hhere, hall]
        rfl
      · rw [List.flatten_cons, List.mem_append, hmem, mem_references ht hhere]
        simp
  obtain ⟨all, hall, hmem⟩ := hall
  refine ⟨all.flatten, ?_, hmem⟩
  unfold Plan.allReferences
  rw [hall]
  rfl

/-! ## Tasks by number -/

/-- The number of a task, where its id is a whole number. -/
def numberOf? (task : Doc) : Option Int :=
  match task.field "task_id" with
  | .ok (.int n) => some n
  | _ => none

/-- The numbers of the tasks that are numbered. -/
def numbers (tasks : List Doc) : List Int :=
  tasks.filterMap numberOf?

/-- The task that a number stands for, which is the last one that has it. -/
def lastTask? (tasks : List Doc) (n : Int) : Option Doc :=
  tasks.reverse.find? fun task => numberOf? task == some n

theorem numberOf?_eq_some {task : Doc} {n : Int} (h : numberOf? task = some n) :
    ∃ fields, task = .record fields ∧ Doc.find? fields "task_id" = some (.int n) := by
  unfold numberOf? at h
  split at h
  next m hfield =>
    cases h
    exact Doc.find?_of_field hfield
  next => cases h

theorem numbers_concat {tasks : List Doc} {task : Doc} {n : Int} (h : numberOf? task = some n) :
    numbers (tasks ++ [task]) = numbers tasks ++ [n] := by
  simp [numbers, h]

theorem lastTask?_concat {tasks : List Doc} {task : Doc} {n : Int} (h : numberOf? task = some n)
    (m : Int) :
    lastTask? (tasks ++ [task]) m = if m = n then some task else lastTask? tasks m := by
  unfold lastTask?
  rw [List.reverse_append, List.reverse_singleton, List.singleton_append, List.find?_cons, h]
  by_cases hm : m = n
  · simp [hm]
  · rw [if_neg hm, beq_false_of_ne fun heq => hm (Option.some.inj heq).symm]

theorem lastTask?_eq_some {tasks : List Doc} {task : Doc} {n : Int}
    (h : lastTask? tasks n = some task) :
    task ∈ tasks ∧ numberOf? task = some n :=
  ⟨List.mem_reverse.1 (List.mem_of_find?_eq_some h), by simpa using List.find?_some h⟩

theorem same_int (m n : Int) : (Doc.int m).same (.int n) = decide (m = n) := by
  rw [Bool.eq_iff_iff, decide_eq_true_iff]
  constructor
  · intro h
    exact Except.ok.inj (Doc.toInt_of_same h)
  · rintro rfl
    show (some (some (compare m m)) == some (some Ordering.eq)) = true
    rw [Int.compare_eq_eq.2 rfl]
    rfl

theorem eraseDups_concat (ids : List Int) (n : Int) :
    (ids ++ [n]).eraseDups = if n ∈ ids then ids.eraseDups else ids.eraseDups ++ [n] := by
  rw [List.eraseDups_append]
  by_cases h : n ∈ ids
  · simp [List.removeAll, h]
  · simp [List.removeAll, h, List.eraseDups_cons]

theorem nodup_eraseDups (ids : List Int) : ids.eraseDups.Nodup := by
  induction ids using List.reverseRecOn with
  | nil => exact List.nodup_nil
  | append_singleton ids n ih =>
    rw [eraseDups_concat]
    by_cases h : n ∈ ids
    · rwa [if_pos h]
    · rw [if_neg h, List.nodup_append]
      refine ⟨ih, by simp, fun m hm k hk => ?_⟩
      rw [List.mem_singleton.1 hk]
      rintro rfl
      exact h (List.mem_eraseDups.1 hm)

theorem eraseDups_of_nodup {ids : List Int} (h : ids.Nodup) : ids.eraseDups = ids := by
  induction ids using List.reverseRecOn with
  | nil => rfl
  | append_singleton ids n ih =>
    obtain ⟨hids, -, hne⟩ := List.nodup_append.1 h
    have hn : n ∉ ids := fun hn => hne n hn n List.mem_cons_self rfl
    rw [eraseDups_concat, if_neg hn, ih hids]

/-! ## The tasks of a plan -/

/-- Are these the tasks that a list of documents gives: one for each number, in the order in which
the numbers appear first? -/
structure Collected (items : List Doc) (tasks : List (Doc × List (Text × Doc))) : Prop where
  keys : tasks.map Prod.fst = (numbers items).eraseDups.map .int
  mem : ∀ n fields, (.int n, fields) ∈ tasks ↔ lastTask? items n = some (.record fields)

theorem keys_insert {tasks : List (Doc × List (Text × Doc))} {ids : List Int}
    (h : tasks.map Prod.fst = ids.map .int) (n : Int) (fields : List (Text × Doc)) :
    (insert tasks (.int n) fields).map Prod.fst =
      if n ∈ ids then ids.map .int else (ids ++ [n]).map .int := by
  induction ids generalizing tasks with
  | nil =>
    obtain rfl := List.map_eq_nil_iff.1 h
    simp [insert]
  | cons m ids ih =>
    obtain ⟨⟨k, t⟩, rest, rfl, hk, hrest⟩ := List.map_eq_cons_iff.1 h
    obtain rfl : k = .int m := hk
    rw [insert, same_int]
    by_cases hm : m = n
    · simp [hm, hrest]
    · have hne : ¬ n = m := fun heq => hm heq.symm
      simp only [hm, decide_false, Bool.false_eq_true, if_false, List.map_cons, ih hrest,
        List.mem_cons, hne, false_or]
      by_cases hn : n ∈ ids
      · simp [hn]
      · simp [hn]

theorem mem_insert {tasks : List (Doc × List (Text × Doc))} {ids : List Int}
    (h : tasks.map Prod.fst = ids.map .int) (hnodup : ids.Nodup) (n : Int)
    (fields : List (Text × Doc)) (m : Int) (others : List (Text × Doc)) :
    (.int m, others) ∈ insert tasks (.int n) fields ↔
      if m = n then others = fields else (.int m, others) ∈ tasks := by
  induction ids generalizing tasks with
  | nil =>
    obtain rfl := List.map_eq_nil_iff.1 h
    by_cases hm : m = n <;> simp [insert, hm]
  | cons k ids ih =>
    obtain ⟨⟨key, t⟩, rest, rfl, hk, hrest⟩ := List.map_eq_cons_iff.1 h
    obtain rfl : key = .int k := hk
    obtain ⟨hnew, hids⟩ := List.nodup_cons.1 hnodup
    have habsent {x : List (Text × Doc)} : (.int k, x) ∉ rest := by
      intro hx
      have hkey := List.mem_map_of_mem (f := Prod.fst) hx
      rw [hrest] at hkey
      simp [hnew] at hkey
    rw [insert, same_int]
    by_cases hkn : k = n
    · subst hkn
      by_cases hm : m = k
      · subst hm
        simp [habsent]
      · simp [hm]
    · by_cases hm : m = k
      · subst hm
        simp [hkn, habsent, ih hrest hids]
      · simp [hkn, hm, ih hrest hids]

theorem Collected.concat {items : List Doc} {tasks : List (Doc × List (Text × Doc))}
    (h : Collected items tasks) {fields : List (Text × Doc)} {n : Int}
    (hn : numberOf? (.record fields) = some n) :
    Collected (items ++ [.record fields]) (insert tasks (.int n) fields) where
  keys := by
    rw [keys_insert h.keys, numbers_concat hn, eraseDups_concat, apply_ite (List.map Doc.int)]
    simp only [List.mem_eraseDups]
  mem m others := by
    rw [mem_insert h.keys (nodup_eraseDups _), lastTask?_concat hn, h.mem]
    by_cases hm : m = n
    · simp [hm, eq_comm]
    · simp [hm]

theorem collect_ok {items rest : List Doc} {tasks : List (Doc × List (Text × Doc))}
    (h : Collected items tasks) (hrest : ∀ task ∈ rest, (numberOf? task).isSome) :
    ∃ tasks', collect tasks rest = .ok tasks' ∧ Collected (items ++ rest) tasks' := by
  induction rest generalizing items tasks with
  | nil => exact ⟨tasks, rfl, by rwa [List.append_nil]⟩
  | cons task rest ih =>
    obtain ⟨hfirst, hbehind⟩ := List.forall_mem_cons.1 hrest
    obtain ⟨n, hn⟩ := Option.isSome_iff_exists.1 hfirst
    obtain ⟨fields, rfl, hfind⟩ := numberOf?_eq_some hn
    obtain ⟨tasks', htasks', hcollected⟩ := ih (h.concat hn) hbehind
    refine ⟨tasks', ?_, by rwa [List.append_assoc] at hcollected⟩
    rw [collect, Doc.field, hfind]
    exact htasks'

/-- A plan whose ids are whole numbers is read without a fault. -/
theorem ofDoc_numbered {d : Doc} {items : List Doc} (hitems : d.field "tasks" = .ok (.list items))
    (hnumbers : ∀ task ∈ items, (numberOf? task).isSome) :
    ∃ tasks, Plan.ofDoc d = .ok ⟨tasks⟩ ∧ Collected items tasks := by
  have hnone : Collected [] [] := ⟨rfl, fun _ _ => ⟨nofun, nofun⟩⟩
  obtain ⟨tasks, htasks, hcollected⟩ := collect_ok hnone hnumbers
  refine ⟨tasks, ?_, hcollected⟩
  obtain ⟨fields, rfl, hfind⟩ := Doc.find?_of_field hitems
  have hread : Plan.ofDoc (.record fields) = (do
      let items ← ((Doc.find? fields "tasks").getD (.list [])).elements
      let tasks ← collect [] items
      return (⟨tasks⟩ : Plan)) := rfl
  rw [hread, hfind, Option.getD_some]
  show (do
    let tasks ← collect [] items
    return (⟨tasks⟩ : Plan)) = _
  rw [htasks]
  rfl

section
variable {items : List Doc} {tasks : List (Doc × List (Text × Doc))} (h : Collected items tasks)
include h

theorem Collected.exists_int {t : Doc × List (Text × Doc)} (ht : t ∈ tasks) :
    ∃ n, t.1 = .int n ∧ lastTask? items n = some (.record t.2) := by
  have hkey := List.mem_map_of_mem (f := Prod.fst) ht
  rw [h.keys] at hkey
  obtain ⟨n, -, hn⟩ := List.mem_map.1 hkey
  obtain ⟨key, fields⟩ := t
  obtain rfl : Doc.int n = key := hn
  exact ⟨n, rfl, (h.mem n fields).1 ht⟩

theorem Collected.find? (n : Int) :
    (Plan.mk tasks).find? n = (lastTask? items n).bind fun task =>
      (task.fieldsFor "get").toOption.map Task.ofFields := by
  unfold Plan.find?
  cases hfind : tasks.find? (fun t => t.1.same (.int n)) with
  | some t =>
    obtain ⟨m, hm, hlast⟩ := h.exists_int (List.mem_of_find?_eq_some hfind)
    have hsame : t.1.same (.int n) = true :=
      List.find?_some (p := fun t : Doc × List (Text × Doc) => t.1.same (.int n)) hfind
    rw [hm, same_int, decide_eq_true_iff] at hsame
    subst hsame
    rw [hlast]
    rfl
  | none =>
    cases hlast : lastTask? items n with
    | none => rfl
    | some task =>
      obtain ⟨fields, rfl, -⟩ := numberOf?_eq_some (lastTask?_eq_some hlast).2
      have hne := List.find?_eq_none.1 hfind _ ((h.mem n fields).2 hlast)
      simp [same_int] at hne

theorem Collected.allReferences (hfinite : ∀ item ∈ items, item.NoInfinity) :
    ∃ referenced, (Plan.mk tasks).allReferences = .ok referenced ∧
      ∀ n, n ∈ referenced ↔ ∃ m task, lastTask? items m = some task ∧ task.Targets n := by
  have htasks : ∀ t ∈ tasks, Doc.NoInfinity (.record t.2) := by
    intro t ht
    obtain ⟨n, -, hlast⟩ := h.exists_int ht
    exact hfinite _ (lastTask?_eq_some hlast).1
  obtain ⟨referenced, hreferenced, hmem⟩ := targets_tasks htasks
  refine ⟨referenced, hreferenced, fun n => (hmem n).trans ⟨?_, ?_⟩⟩
  · rintro ⟨t, ht, htargets⟩
    obtain ⟨m, -, hlast⟩ := h.exists_int ht
    exact ⟨m, _, hlast, htargets⟩
  · rintro ⟨m, task, hlast, htargets⟩
    obtain ⟨fields, rfl, -⟩ := numberOf?_eq_some (lastTask?_eq_some hlast).2
    exact ⟨(.int m, fields), (h.mem m fields).2 hlast, htargets⟩

end

/-! ## The root -/

/-- Is this the number of a task, and the target of no task that counts? -/
structure Free (items : List Doc) (n : Int) : Prop where
  mem : n ∈ numbers items
  free : ∀ m task, lastTask? items m = some task → ¬ task.Targets n

theorem greater_int (m n : Int) : (Doc.int m).greater (.int n) = .ok (decide (n < m)) := by
  show Except.ok (compare m n == .gt) = _
  by_cases h : n < m
  · rw [Int.compare_eq_gt.2 h, decide_eq_true h]
    rfl
  · have hne : compare m n ≠ .gt := fun hgt => h (Int.compare_eq_gt.1 hgt)
    rw [beq_false_of_ne hne, decide_eq_false h]

theorem greatest_int (best : Int) (others : List Int) :
    ∃ n, greatest (.int best) (others.map .int) = .ok (.int n) ∧ n ∈ best :: others ∧
      ∀ m ∈ best :: others, m ≤ n := by
  induction others generalizing best with
  | nil => exact ⟨best, rfl, by simp, by simp⟩
  | cons k others ih =>
    rw [List.map_cons, greatest, greater_int, ok_bind]
    by_cases hk : best < k
    · obtain ⟨n, hn, hmem, hle⟩ := ih k
      simp only [List.forall_mem_cons] at hle ⊢
      rw [decide_eq_true hk, if_pos rfl]
      exact ⟨n, hn, List.mem_cons_of_mem best hmem, by omega, hle⟩
    · obtain ⟨n, hn, hmem, hle⟩ := ih best
      simp only [List.forall_mem_cons] at hle ⊢
      rw [decide_eq_false hk, if_neg Bool.false_ne_true]
      refine ⟨n, hn, ?_, hle.1, by omega, hle.2⟩
      rw [List.mem_cons] at hmem ⊢
      exact hmem.imp_right (List.mem_cons_of_mem k)

/-- The number to begin with: the greatest free one, or else the last one. -/
def Leading (items : List Doc) (root : Int) : Prop :=
  (Free items root ∧ ∀ n, Free items n → n ≤ root) ∨
    ((∀ n, ¬ Free items n) ∧ (numbers items).eraseDups.getLast? = some root)

theorem Leading.unique {items : List Doc} {root root' : Int} (h : Leading items root)
    (h' : Leading items root') : root = root' := by
  obtain ⟨hfree, hgreatest⟩ | ⟨hnone, hlast⟩ := h <;>
    obtain ⟨hfree', hgreatest'⟩ | ⟨hnone', hlast'⟩ := h'
  · exact Int.le_antisymm (hgreatest' root hfree) (hgreatest root' hfree')
  · exact absurd hfree (hnone' root)
  · exact absurd hfree' (hnone root')
  · exact Option.some.inj (hlast.symm.trans hlast')

/-- Integers that are gone through in another order are the same integers. -/
theorem arrange_int (order : SetOrder) (ids : List Doc) (chosen : List Int) :
    ∃ arranged : List Int, order.arrange ids (chosen.map .int) = arranged.map .int ∧
      arranged.Perm chosen := by
  have hperm := order.perm ids (chosen.map .int)
  have hrange : order.arrange ids (chosen.map .int) ∈ Set.range (List.map Doc.int) := by
    rw [Set.range_list_map]
    intro d hd
    obtain ⟨n, -, hn⟩ := List.mem_map.1 (hperm.subset hd)
    exact ⟨n, hn⟩
  obtain ⟨arranged, harranged⟩ := hrange
  refine ⟨arranged, harranged.symm, ?_⟩
  rw [← harranged] at hperm
  exact (List.map_perm_map_iff fun m n h => Doc.int.inj h).1 hperm

theorem Collected.root_of_order {items : List Doc} {tasks : List (Doc × List (Text × Doc))}
    (h : Collected items tasks) (hfinite : ∀ item ∈ items, item.NoInfinity)
    (hne : numbers items ≠ []) (order : SetOrder) :
    ∃ root, (Plan.mk tasks).root order = .ok (.int root) ∧ Leading items root := by
  obtain ⟨referenced, hreferenced, hmem⟩ := h.allReferences hfinite
  have hfree (n : Int) :
      Free items n ↔ n ∈ (numbers items).eraseDups.filter fun n => n ∉ referenced := by
    simp only [List.mem_filter, List.mem_eraseDups, decide_eq_true_iff]
    rw [hmem]
    constructor
    · rintro ⟨hn, hfree⟩
      refine ⟨hn, ?_⟩
      rintro ⟨m, task, hlast, htargets⟩
      exact hfree m task hlast htargets
    · rintro ⟨hn, hfree⟩
      exact ⟨hn, fun m task hlast htargets => hfree ⟨m, task, hlast, htargets⟩⟩
  have hfilter : (tasks.map Prod.fst).filter (fun id => !referenced.any fun n => id.same (.int n)) =
      ((numbers items).eraseDups.filter fun n => n ∉ referenced).map .int := by
    rw [h.keys, List.filter_map]
    congr 1
    refine List.filter_congr fun n _ => ?_
    have hany : (referenced.any fun k => decide (n = k)) = decide (n ∈ referenced) := by
      rw [Bool.eq_iff_iff]
      simp
    simp [same_int, hany]
  unfold Plan.root
  rw [hreferenced, ok_bind]
  dsimp only
  rw [hfilter]
  obtain ⟨arranged, harranged, hperm⟩ := arrange_int order (tasks.map Prod.fst)
    ((numbers items).eraseDups.filter fun n => n ∉ referenced)
  simp only [← hperm.mem_iff] at hfree
  rw [harranged, h.keys]
  cases arranged with
  | nil =>
    obtain ⟨n, hn⟩ := List.exists_mem_of_ne_nil _ hne
    obtain ⟨root, hroot⟩ : ∃ root, (numbers items).eraseDups.getLast? = some root :=
      ⟨_, List.getLast?_eq_some_getLast (List.ne_nil_of_mem (List.mem_eraseDups.2 hn))⟩
    refine ⟨root, ?_, .inr ⟨fun n hn => by simpa using (hfree n).1 hn, hroot⟩⟩
    rw [List.getLast?_map, hroot]
    rfl
  | cons first rest =>
    obtain ⟨root, hroot, hmem, hle⟩ := greatest_int first rest
    exact ⟨root, hroot, .inl ⟨(hfree root).2 hmem, fun n hn => hle n ((hfree n).1 hn)⟩⟩

/-- In whatever order the ids are gone through, the root is the same. -/
theorem Collected.root {items : List Doc} {tasks : List (Doc × List (Text × Doc))}
    (h : Collected items tasks) (hfinite : ∀ item ∈ items, item.NoInfinity)
    (hne : numbers items ≠ []) :
    ∃ root, (∀ order, (Plan.mk tasks).root order = .ok (.int root)) ∧ Leading items root := by
  obtain ⟨root, -, hleading⟩ := h.root_of_order hfinite hne .given
  refine ⟨root, fun order => ?_, hleading⟩
  obtain ⟨root', hroot', hleading'⟩ := h.root_of_order hfinite hne order
  rw [hleading.unique hleading', hroot']

/-! ## Tasks in another order -/

theorem eq_of_numberOf? {items : List Doc} (hnodup : (numbers items).Nodup) {a b : Doc}
    (ha : a ∈ items) (hb : b ∈ items) {n : Int} (hna : numberOf? a = some n)
    (hnb : numberOf? b = some n) : a = b := by
  rw [numbers, List.Nodup, List.pairwise_filterMap] at hnodup
  have hsymm : Std.Symm fun a b => ∀ n, numberOf? a = some n → ∀ m, numberOf? b = some m → n ≠ m :=
    ⟨fun _ _ h n hn m hm => (h m hm n hn).symm⟩
  by_contra hne
  exact hnodup.forall ha hb hne n hna n hnb rfl

theorem lastTask?_perm {items items' : List Doc} (h : items.Perm items')
    (hnodup : (numbers items).Nodup) (n : Int) : lastTask? items n = lastTask? items' n := by
  refine List.find?_eq_find?_of_perm
    ((List.reverse_perm items).trans (h.trans (List.reverse_perm items').symm)) ?_
  rintro a ⟨ha, hna⟩ b ⟨hb, hnb⟩
  exact eq_of_numberOf? hnodup (List.mem_reverse.1 ha) (List.mem_reverse.1 hb) (by simpa using hna)
    (by simpa using hnb)

theorem Free.perm {items items' : List Doc} (h : items.Perm items') (hnodup : (numbers items).Nodup)
    {n : Int} (hfree : Free items n) : Free items' n where
  mem := (h.filterMap numberOf?).subset hfree.mem
  free m task hlast := hfree.free m task ((lastTask?_perm h hnodup m).trans hlast)

/-- Plans with the same tasks and the same root give the same statement. -/
theorem compile_congr {plan plan' : Plan} {order order' : SetOrder}
    (hfind : ∀ n, plan.find? n = plan'.find? n) (hlength : plan.tasks.length = plan'.tasks.length)
    (hroot : plan.root order = plan'.root order') (store : Vector.Store) :
    plan.compile order store = plan'.compile order' store := by
  have htask (depth : Nat) (id : Doc) :
      compileTask plan store depth id = compileTask plan' store depth id :=
    compileTask_congr (S := Set.univ) (fun n _ => hfind n) (fun _ _ _ _ => trivial) depth id
      fun _ _ => trivial
  have hempty : plan.tasks.isEmpty = plan'.tasks.isEmpty := by
    rw [Bool.eq_iff_iff, List.isEmpty_iff_length_eq_zero, List.isEmpty_iff_length_eq_zero, hlength]
  unfold compile
  rw [hempty, hroot, hlength]
  simp only [htask]

theorem Collected.length_eq {items : List Doc} {tasks : List (Doc × List (Text × Doc))}
    (h : Collected items tasks) (hnodup : (numbers items).Nodup) :
    tasks.length = (numbers items).length := by
  have hlength := congrArg List.length h.keys
  rwa [eraseDups_of_nodup hnodup, List.length_map, List.length_map] at hlength

/-- The root of a plan with integers as ids is the greatest of those that no task refers to, or else
the last one, in whatever order the ids are gone through. Where no id is repeated and one of them is
free, tasks in another order give the same statement. -/
theorem root_selected {d : Doc} {items : List Doc} (hitems : d.field "tasks" = .ok (.list items))
    (hne : items ≠ []) (hnumbers : ∀ task ∈ items, (numberOf? task).isSome)
    (hfinite : ∀ task ∈ items, task.NoInfinity) :
    ∃ plan root, Plan.ofDoc d = .ok plan ∧ (∀ order, plan.root order = .ok (.int root)) ∧
      root ∈ numbers items ∧
      ((∃ n, Free items n) → Free items root ∧ ∀ n, Free items n → n ≤ root) ∧
      ((¬ ∃ n, Free items n) → (numbers items).eraseDups.getLast? = some root) ∧
      ((numbers items).Nodup → (∃ n, Free items n) → ∀ (d' : Doc) (items' : List Doc),
        items.Perm items' → d'.field "tasks" = .ok (.list items') →
        ∃ plan', Plan.ofDoc d' = .ok plan' ∧ ∀ order order' store,
          plan'.compile order' store = plan.compile order store) := by
  have hsome : numbers items ≠ [] := by
    obtain ⟨task, htask⟩ := List.exists_mem_of_ne_nil _ hne
    obtain ⟨n, hn⟩ := Option.isSome_iff_exists.1 (hnumbers task htask)
    exact List.ne_nil_of_mem (List.mem_filterMap.2 ⟨task, htask, hn⟩)
  obtain ⟨tasks, hplan, hcollected⟩ := ofDoc_numbered hitems hnumbers
  obtain ⟨root, hroot, hselected⟩ := hcollected.root hfinite hsome
  refine ⟨⟨tasks⟩, root, hplan, hroot, ?_, ?_, ?_, ?_⟩
  · obtain ⟨hfree, -⟩ | ⟨-, hlast⟩ := hselected
    · exact hfree.mem
    · exact List.mem_eraseDups.1 (List.mem_of_getLast? hlast)
  · rintro ⟨n, hn⟩
    exact hselected.resolve_right fun h => h.1 n hn
  · intro hnone
    exact (hselected.resolve_left fun h => hnone ⟨root, h.1⟩).2
  · rintro hnodup ⟨n, hn⟩ d' items' hperm hitems'
    have hmem (task : Doc) (htask : task ∈ items') : task ∈ items := hperm.symm.subset htask
    have hnumbersPerm := hperm.filterMap numberOf?
    have hnodup' : (numbers items').Nodup := hnumbersPerm.nodup_iff.1 hnodup
    obtain ⟨tasks', hplan', hcollected'⟩ :=
      ofDoc_numbered hitems' fun task htask => hnumbers task (hmem task htask)
    obtain ⟨root', hroot', hselected'⟩ := hcollected'.root
      (fun task htask => hfinite task (hmem task htask))
      (List.ne_nil_of_mem (hn.perm hperm hnodup).mem)
    obtain ⟨hfree, hgreatest⟩ := hselected.resolve_right fun h => h.1 n hn
    obtain ⟨hfree', hgreatest'⟩ := hselected'.resolve_right fun h => h.1 n (hn.perm hperm hnodup)
    -- both orders have the same free numbers, and with them the same greatest one
    obtain rfl : root = root' := Int.le_antisymm (hgreatest' root (hfree.perm hperm hnodup))
      (hgreatest root' (hfree'.perm hperm.symm hnodup'))
    refine ⟨⟨tasks'⟩, hplan', fun order order' =>
      compile_congr (fun n => ?_) ?_ ((hroot' order').trans (hroot order).symm)⟩
    · rw [hcollected'.find?, hcollected.find?, lastTask?_perm hperm hnodup]
    · exact (hcollected'.length_eq hnodup').trans
        (hnumbersPerm.length_eq.symm.trans (hcollected.length_eq hnodup).symm)

/-- Tasks of which the second and the fourth one are free: the first one is the target of a part
that the compiler does not read. -/
def looseTasks : List Doc :=
  [.record [("task_id", .int 5), ("main_table", .text "disp"), ("target_task_id", .null)],
    .record [("task_id", .int 2), ("main_table", .text "card")],
    .record [("task_id", .int 3), ("main_table", .text "loan"), ("structural_logic",
      .list [.record [("type", .text "UNION"), ("target_task_id", .text "1")]])],
    .record [("task_id", .int 4), ("main_table", .text "account"), ("structural_logic",
      .list [.record [("type", .text "EXCEPT"), ("target_task_id", .int 3)]]),
      ("notes", .list [.record [("target_task_id", .real 5.5)],
        .record [("target_task_id", .text "none")]])],
    .record [("task_id", .int 1), ("main_table", .text "client")]]

theorem noInfinity_looseTasks : (Doc.list looseTasks).NoInfinity := by
  unfold Doc.NoInfinity
  decide +kernel

theorem free_looseTasks : Free looseTasks 4 := by
  have hreferences : (references (.list looseTasks)).toOption = some [1, 3, 5] := by decide +kernel
  refine ⟨by decide +kernel, fun m task hlast htargets => ?_⟩
  have hmem := (mem_references noInfinity_looseTasks (ok_of_toOption hreferences) 4).2
    (.item (lastTask?_eq_some hlast).1 htargets)
  exact absurd hmem (by decide)

theorem root_selected_loose :
    ∃ plan, Plan.ofDoc (.record [("tasks", .list looseTasks)]) = .ok plan ∧
      (∀ order, plan.root order = .ok (.int 4)) ∧
      (∀ n, Free looseTasks n → n ≤ 4) ∧
      ∃ plan', Plan.ofDoc (.record [("tasks", .list looseTasks.reverse)]) = .ok plan' ∧
        ∀ order order' store, plan'.compile order' store = plan.compile order store := by
  have hcomputed : (Plan.ofDoc (.record [("tasks", .list looseTasks)]) >>= (Plan.root · .given) >>=
      Doc.toInt).toOption = some 4 := by decide +kernel
  obtain ⟨plan, root, hplan, hroot, -, hgreatest, -, hreordered⟩ :=
    root_selected (d := .record [("tasks", .list looseTasks)]) rfl (List.cons_ne_nil _ _)
      (by decide +kernel) (Doc.noInfinity_list.1 noInfinity_looseTasks)
  obtain rfl : root = 4 := by
    rw [hplan, ok_bind, hroot .given, ok_bind] at hcomputed
    exact Option.some.inj hcomputed
  exact ⟨plan, hplan, hroot, (hgreatest ⟨4, free_looseTasks⟩).2, hreordered (by decide +kernel)
    ⟨4, free_looseTasks⟩ _ _ (List.reverse_perm _).symm rfl⟩

end Plan
end QueryBench
