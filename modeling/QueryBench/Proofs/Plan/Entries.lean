import QueryBench.Proofs.Doc.Shape
import QueryBench.Proofs.Plan.Compound

/-!
# The entries of a task

An entry of the structure of a task is a join, or a set operation with another task. What it says
then stands in the text of the task. An entry of another type has no part in it: the text is the one
that the task has without the entry.

Main definitions: `Plan.Joined`, `Plan.Attached`, `Plan.LeftOut`. Main statement:
`Plan.entries_take_part`.
-/
set_option autoImplicit false

namespace QueryBench.Plan

/-- The joins and set operations of a task, as they are listed. -/
def entriesOf (fields : List (Text × Doc)) : Part (List Doc) :=
  (fieldOr fields "structural_logic" (.list [])).elements

/-- The task with another list of joins and set operations. -/
def withEntries (fields : List (Text × Doc)) (entries : List Doc) : List (Text × Doc) :=
  Doc.put fields "structural_logic" (.list entries)

/-- The table and the condition of the entry stand behind its type. -/
def Joined (ctx : Context) (entry type : Doc) (sql : Text) : Prop :=
  ∃ table condition, (entry.field "table" >>= quoteTable) = .ok table ∧
    Produces (renderCondition ctx (.ofPart (entry.field "condition"))) condition ∧
    (type.display ++ " " ++ table.display ++ " ON " ++ condition : Text) <:+: sql

/-- The text of the task that the entry names is an operand of its type. -/
def Attached (ctx : Context) (entry type : Doc) (sql : Text) : Prop :=
  ∃ id text, entry.field "target_task_id" = .ok id ∧ Produces (ctx.subquery id) text ∧
    (") \n" ++ type.display ++ " \n(" ++ text ++ ")" : Text) <:+: sql

/-- Wherever the entry stands, the task gives the same without it. -/
def LeftOut (fields : List (Text × Doc)) (entry : Doc) : Prop :=
  ∀ before behind, entriesOf fields = .ok (before ++ entry :: behind) →
    ∀ ctx, renderTask ctx (Task.ofFields (withEntries fields (before ++ behind))) =
      renderTask ctx (Task.ofFields fields)

/-! ## Entries as links -/

theorem link_cases {entry : Doc} {link : Link} (h : Link.ofDoc entry = .ok link) :
    ∃ type, entry.field "type" = .ok type ∧
      ((type.has "JOIN" = .ok true ∧ link = .join (.ofDoc entry)) ∨
        (type.has "JOIN" = .ok false ∧ type.isOneOf setOperators = true ∧
          link = .combine ⟨type, entry.field "target_task_id"⟩) ∨
        (type.has "JOIN" = .ok false ∧ type.isOneOf setOperators = false ∧ link = .ignored)) := by
  obtain ⟨type, htype, h⟩ := ok_of_bind h
  obtain ⟨isJoin, hjoin, h⟩ := ok_of_bind h
  refine ⟨type, htype, ?_⟩
  cases isJoin with
  | true =>
    cases h
    exact .inl ⟨hjoin, rfl⟩
  | false =>
    by_cases hset : type.isOneOf setOperators = true
    · rw [if_neg Bool.false_ne_true, if_pos hset] at h
      cases h
      exact .inr (.inl ⟨hjoin, hset, rfl⟩)
    · rw [if_neg Bool.false_ne_true, if_neg hset] at h
      cases h
      exact .inr (.inr ⟨hjoin, Bool.eq_false_iff.2 hset, rfl⟩)

theorem entries_of_links {fields : List (Text × Doc)} {links : List Link}
    (h : (Task.ofFields fields).links = .ok links) :
    ∃ entries, entriesOf fields = .ok entries ∧
      List.Forall₂ (fun entry link => Link.ofDoc entry = .ok link) entries links := by
  obtain ⟨entries, hentries, hlinks⟩ := ok_of_bind h
  exact ⟨entries, hentries, mapM_eq_ok_iff.1 hlinks⟩

theorem ofFields_withEntries (fields : List (Text × Doc)) (entries : List Doc) :
    Task.ofFields (withEntries fields entries) =
      { Task.ofFields fields with links := entries.mapM Link.ofDoc } := by
  have hother (key : Text) (default : Doc) (hkey : key ≠ "structural_logic") :
      fieldOr (withEntries fields entries) key default = fieldOr fields key default := by
    rw [fieldOr, withEntries, Doc.find?_put, if_neg hkey]
    rfl
  have hown (default : Doc) :
      fieldOr (withEntries fields entries) "structural_logic" default = .list entries := by
    rw [fieldOr, withEntries, Doc.find?_put, if_pos rfl]
    rfl
  have hdistinct :
      distinctOf (.record (withEntries fields entries)) = distinctOf (.record fields) := by
    have hfield (f : List (Text × Doc)) :
        distinctOf (.record f) = .ok (!(fieldOr f "is_distinct" (.bool false)).isVoid) := rfl
    rw [hfield, hfield, hother _ _ (by decide)]
  unfold Task.ofFields
  rw [hown, hdistinct, hother _ _ (by decide), hother _ _ (by decide), hother _ _ (by decide),
    hother _ _ (by decide), hother _ _ (by decide), hother _ _ (by decide), hother _ _ (by decide)]
  rfl

theorem leftOut_of_ignored {fields : List (Text × Doc)} {entry : Doc} {links : List Link}
    (hlinks : (Task.ofFields fields).links = .ok links) (h : Link.ofDoc entry = .ok .ignored) :
    LeftOut fields entry := by
  intro before behind hentries ctx
  obtain ⟨entries, hentries', hforall⟩ := entries_of_links hlinks
  cases hentries.symm.trans hentries'
  have hall := mapM_eq_ok_iff.2 hforall
  rw [List.mapM_append, List.mapM_cons, h, ok_bind] at hall
  obtain ⟨first, hfirst, hall⟩ := ok_of_bind hall
  obtain ⟨_, hrest, hall⟩ := ok_of_bind hall
  obtain ⟨rest, hbehind, hrest⟩ := ok_of_bind hrest
  cases hrest
  cases hall
  have hless :
      (Task.ofFields (withEntries fields (before ++ behind))).links = .ok (first ++ rest) := by
    rw [ofFields_withEntries]
    show (before ++ behind).mapM Link.ofDoc = _
    rw [List.mapM_append, hfirst, hbehind]
    rfl
  have hjoins : Link.joins (first ++ .ignored :: rest) = Link.joins (first ++ rest) := by
    simp [Link.joins]
  have hset :
      Link.setOperations (first ++ .ignored :: rest) = Link.setOperations (first ++ rest) := by
    simp [Link.setOperations]
  have hown : renderOwn ctx (Task.ofFields (withEntries fields (before ++ behind))) =
      renderOwn ctx (Task.ofFields fields) := by
    rw [ofFields_withEntries]
    rfl
  rw [renderTask_eq, renderTask_eq, hlinks, hless, hown]
  exact congrArg₂ (fun joins operations => renderOwn ctx (Task.ofFields fields) joins >>=
    fun base => renderSetOperations ctx base operations) hjoins.symm hset.symm

/-! ## Links in the text -/

section
variable {ctx : Context} {task : Task} {links : List Link} {operands : List (Text × Text)}
  {base sql : Text} (h : Compound ctx task links operands base sql)
include h

theorem Compound.joined {entry type : Doc} (hlink : .join (.ofDoc entry) ∈ links)
    (htype : entry.field "type" = .ok type) : Joined ctx entry type sql := by
  have hjoin : Join.ofDoc entry ∈ Link.joins links := List.mem_filterMap.2 ⟨_, hlink, rfl⟩
  obtain ⟨console, console', hown⟩ := h.own
  obtain ⟨text, ⟨console₁, console₂, hrun⟩, htext⟩ :=
    join_renderOwn ctx task _ console base console' hown _ hjoin
  obtain ⟨table, _, htable, hrun⟩ := run_bind_ok hrun
  obtain ⟨condition, _, hcondition, hrun⟩ := run_bind_ok hrun
  obtain ⟨kind, _, hkind, hrun⟩ := run_bind_ok hrun
  cases hrun
  refine ⟨table, condition, ensures_ok _ _ _ _ htable, ⟨_, _, hcondition⟩, ?_⟩
  have hkind : entry.field "type" = .ok kind := ensures_ok _ _ _ _ hkind
  cases htype.symm.trans hkind
  rw [h.sql_eq]
  exact htext.trans (infix_combined base operands)

theorem Compound.attached {entry type : Doc}
    (hlink : .combine ⟨type, entry.field "target_task_id"⟩ ∈ links) :
    Attached ctx entry type sql := by
  have hset : ⟨type, entry.field "target_task_id"⟩ ∈ Link.setOperations links :=
    List.mem_filterMap.2 ⟨_, hlink, rfl⟩
  obtain ⟨⟨_, text⟩, hoperand, rfl, id, hid, htext⟩ := exists_mem_of_forall₂ h.operand hset
  rw [h.sql_eq]
  exact ⟨id, text, hid, htext, operand_combined hoperand base⟩

end

/-- In a task that has a text, each join and each set operation stands in the text as its entry says,
and an entry of any other type makes no difference to it. -/
theorem entries_take_part {plan : Plan} {store : Vector.Store} {depth : Nat} {id : Doc} {sql : Text}
    (h : Produces (compileTask plan store depth id) sql) {number : Int}
    (hnumber : id.toInt = .ok number) {t : Doc × List (Text × Doc)}
    (ht : plan.tasks.find? (fun t => t.1.same (.int number)) = some t) :
    ∃ below entries, depth = below + 1 ∧ entriesOf t.2 = .ok entries ∧
      ∀ entry ∈ entries, ∃ type, entry.field "type" = .ok type ∧
        ((type.has "JOIN" = .ok true ∧
            Joined ⟨store, compileTask plan store below⟩ entry type sql) ∨
          (type.has "JOIN" = .ok false ∧ type.isOneOf setOperators = true ∧
            Attached ⟨store, compileTask plan store below⟩ entry type sql) ∨
          (type.has "JOIN" = .ok false ∧ type.isOneOf setOperators = false ∧ LeftOut t.2 entry)) := by
  have hfind : plan.find? number = some (Task.ofFields t.2) := by
    rw [find?, ht]
    rfl
  obtain ⟨number', hnumber', hcases⟩ := produces_entered h
  cases hnumber.symm.trans hnumber'
  obtain ⟨hnone, -⟩ | ⟨below, task, hdepth, htask, console, console', hrun⟩ := hcases
  · cases hnone.symm.trans hfind
  cases hfind.symm.trans htask
  obtain ⟨links, operands, base, hcompound⟩ := compound_renderTask _ _ console sql console' hrun
  obtain ⟨entries, hentries, hforall⟩ := entries_of_links hcompound.links_eq
  refine ⟨below, entries, hdepth, hentries, fun entry hentry => ?_⟩
  obtain ⟨link, hlink, hofDoc⟩ := exists_mem_of_forall₂ hforall hentry
  obtain ⟨type, htype, hcases⟩ := link_cases hofDoc
  refine ⟨type, htype, ?_⟩
  obtain ⟨hjoin, rfl⟩ | ⟨hjoin, hset, rfl⟩ | ⟨hjoin, hset, rfl⟩ := hcases
  · exact .inl ⟨hjoin, hcompound.joined hlink htype⟩
  · exact .inr (.inl ⟨hjoin, hset, hcompound.attached hlink⟩)
  · exact .inr (.inr ⟨hjoin, hset, leftOut_of_ignored hcompound.links_eq hofDoc⟩)

def joinEntry : Doc :=
  .record [("type", .text "LEFT JOIN"), ("table", .text "client c"), ("condition",
    .record [("left", .record [("type", .text "COLUMN"), ("value", .text "c.id")]),
      ("operator", .text "="),
      ("right", .record [("type", .text "COLUMN"), ("value", .text "loan.id")])])]

def unionEntry : Doc :=
  .record [("type", .text "UNION"), ("target_task_id", .int 2)]

/-- An entry of a type that is no set operation here. -/
def unionAllEntry : Doc :=
  .record [("type", .text "UNION ALL"), ("target_task_id", .int 3)]

/-- A task with a join behind two set operations, one of them unknown. -/
def variedTask : List (Text × Doc) :=
  [("task_id", .int 1), ("main_table", .text "loan"),
    ("structural_logic", .list [unionAllEntry, unionEntry, joinEntry])]

def variedPlan : Plan :=
  ⟨[(.int 1, variedTask), (.int 2, [("task_id", .int 2), ("main_table", .text "card")]),
    (.int 3, [("task_id", .int 3), ("main_table", .text "disp")])]⟩

def variedStatement : Text :=
  "(SELECT *\nFROM \"loan\"\nLEFT JOIN \"client\" c ON (c.id = loan.id)) " ++
    "\nUNION \n(SELECT *\nFROM \"card\")"

theorem produces_varied : Produces (compileTask variedPlan ⟨[]⟩ 3 (.int 1)) variedStatement := by
  have hrun : (runIn (compileTask variedPlan ⟨[]⟩ 3 (.int 1)) "").1.toOption =
      some variedStatement := by decide +kernel
  exact produces_of_run (ok_of_toOption hrun)

theorem entries_take_part_varied :
    Joined ⟨⟨[]⟩, compileTask variedPlan ⟨[]⟩ 2⟩ joinEntry (.text "LEFT JOIN") variedStatement ∧
      Attached ⟨⟨[]⟩, compileTask variedPlan ⟨[]⟩ 2⟩ unionEntry (.text "UNION") variedStatement ∧
      LeftOut variedTask unionAllEntry := by
  obtain ⟨below, entries, hbelow, hentries, hall⟩ :=
    entries_take_part produces_varied (rfl : (Doc.int 1).toInt = .ok 1)
      (t := (.int 1, variedTask)) rfl
  cases hbelow
  cases hentries
  simp only [List.forall_mem_cons] at hall
  obtain ⟨⟨_, htype, hstray⟩, ⟨_, htype', hunion⟩, ⟨_, htype'', hjoin⟩, -⟩ := hall
  cases htype
  cases htype'
  cases htype''
  have hplain : (Doc.text "LEFT JOIN").has "JOIN" = .ok true := rfl
  have hset : (Doc.text "UNION").has "JOIN" = .ok false := rfl
  have hother : (Doc.text "UNION ALL").has "JOIN" = .ok false := rfl
  refine ⟨?_, ?_, ?_⟩
  · obtain ⟨-, h⟩ | ⟨h, -⟩ | ⟨h, -⟩ := hjoin
    · exact h
    · cases hplain.symm.trans h
    · cases hplain.symm.trans h
  · obtain ⟨h, -⟩ | ⟨-, -, h⟩ | ⟨-, h, -⟩ := hunion
    · cases hset.symm.trans h
    · exact h
    · exact absurd h (by decide)
  · obtain ⟨h, -⟩ | ⟨-, h, -⟩ | ⟨-, -, h⟩ := hstray
    · cases hother.symm.trans h
    · exact absurd h (by decide)
    · exact h

/-- The text of a task that an entry names need not be in that of the task with the entry. -/
theorem union_all_dropped :
    ∃ sql text, Produces (variedPlan.compile .given ⟨[]⟩) sql ∧
      Produces (compileTask variedPlan ⟨[]⟩ 2 (.int 3)) text ∧ ¬ text <:+: sql := by
  have hrun : (runIn (variedPlan.compile .given ⟨[]⟩) "").1.toOption = some variedStatement := by
    decide +kernel
  have hstray : (runIn (compileTask variedPlan ⟨[]⟩ 2 (.int 3)) "").1.toOption =
      some (Text.ofString "SELECT *\nFROM \"disp\"") := by decide +kernel
  exact ⟨variedStatement, Text.ofString "SELECT *\nFROM \"disp\"",
    produces_of_run (ok_of_toOption hrun), produces_of_run (ok_of_toOption hstray),
    by decide +kernel⟩

end QueryBench.Plan
