import QueryBench.Plan.Sql
import QueryBench.Proofs.Console
import QueryBench.Proofs.Plan.Leaves
import QueryBench.Proofs.Text.Search

/-!
# The texts of other tasks inside that of a task

The text of a task is made of those of the tasks that it calls for, each put between parentheses. On its
way a text may lose quotes, but nothing else: what it holds without quotes stands in the end too.

Main definitions: `Plan.Keeps`, `Plan.Holds`, and `Plan.entered`, what entering a task gives. Main
statement: `Plan.holds_renderTask`.
-/
set_option autoImplicit false

namespace QueryBench

namespace Plan

/-! ## Texts inside others -/

/-- Is all that one text holds without quotes held by the other too? -/
def Keeps (text sql : Text) : Prop :=
  ∀ needle : Text, .char '\'' ∉ needle → .char '"' ∉ needle → needle <:+: text → needle <:+: sql

theorem keeps_of_isInfix {text sql : Text} (h : text <:+: sql) : Keeps text sql :=
  fun _ _ _ hneedle => hneedle.trans h

theorem Keeps.trans {a b c : Text} (hab : Keeps a b) (hbc : Keeps b c) : Keeps a c :=
  fun needle hsingle hdouble hneedle => hbc needle hsingle hdouble (hab needle hsingle hdouble hneedle)

theorem Keeps.within {a b c : Text} (hab : Keeps a b) (hbc : b <:+: c) : Keeps a c :=
  hab.trans (keeps_of_isInfix hbc)

theorem isInfix_replaceChar {c : Char} {needle s : Text} (hneedle : .char c ∉ needle)
    (h : needle <:+: s) : needle <:+: Text.replaceChar c [] s := by
  obtain ⟨before, behind, rfl⟩ := h
  refine ⟨Text.replaceChar c [] before, Text.replaceChar c [] behind, ?_⟩
  conv_lhs => rw [← Text.replaceChar_of_not_mem hneedle []]
  simp only [Text.replaceChar, List.flatMap_append]

/-- Taking quotes out of a text keeps what has none. -/
theorem keeps_unquoted (s : Text) :
    Keeps s (Text.replaceChar '"' [] (Text.replaceChar '\'' [] s)) :=
  fun _ hsingle hdouble hneedle => isInfix_replaceChar hdouble (isInfix_replaceChar hsingle hneedle)

theorem isInfix_join {separator s : Text} {texts : List Text} (hs : s ∈ texts) :
    s <:+: Text.join separator texts := by
  induction texts with
  | nil => cases hs
  | cons first rest ih =>
    cases rest with
    | nil =>
      obtain rfl := List.mem_singleton.1 hs
      simp [Text.join]
    | cons second rest =>
      rw [Text.join, List.intercalate_cons_cons]
      obtain rfl | hs := List.mem_cons.1 hs
      · exact ⟨[], separator ++ separator.intercalate (second :: rest), by simp⟩
      · exact (ih hs).trans (List.suffix_append _ _).isInfix

theorem eq_map_of_textsFrom {i : Nat} {items : List Doc} {texts : List Text}
    (h : Doc.textsFrom i items = .ok texts) : items = texts.map .text := by
  fun_induction Doc.textsFrom i items generalizing texts with
  | case1 =>
    cases h
    rfl
  | case2 i s rest ih =>
    obtain ⟨behind, hbehind, h⟩ := ok_of_bind h
    cases h
    rw [ih hbehind, List.map_cons]
  | case3 => cases h

theorem isInfix_joined {separator list : Text} {items : List Doc} {d : Doc} (hd : d ∈ items)
    (h : Doc.joined separator items = .ok list) : d.display <:+: list := by
  obtain ⟨texts, htexts, h⟩ := ok_of_bind h
  cases h
  rw [eq_map_of_textsFrom htexts] at hd
  obtain ⟨s, hs, rfl⟩ := List.mem_map.1 hd
  exact isInfix_join hs

theorem keeps_callText {name call : Text} {arguments : List Doc} {d : Doc} (hd : d ∈ arguments)
    (h : callText name arguments = .ok call) : Keeps d.display call := by
  have hplain (h : callText.plainCall name arguments = .ok call) : Keeps d.display call := by
    obtain ⟨list, hlist, h⟩ := ok_of_bind h
    cases h
    refine keeps_of_isInfix ((isInfix_joined hd hlist).trans ⟨name ++ "(", ")", ?_⟩)
    simp only [List.append_assoc]
  unfold callText at h
  split at h
  next expression type =>
    split at h
    · obtain ⟨s, hs, h⟩ := ok_of_bind h
      cases h
      obtain rfl : type = .text s := by
        cases type with
        | text s' => exact congrArg Doc.text (Except.ok.inj hs)
        | _ => cases hs
      obtain rfl | hd := List.mem_cons.1 hd
      · refine keeps_of_isInfix ⟨"CAST(",
          " AS " ++ Text.replaceChar '"' [] (Text.replaceChar '\'' [] s) ++ ")", ?_⟩
        simp only [List.append_assoc]
      · obtain rfl := List.mem_singleton.1 hd
        refine (keeps_unquoted s).within ⟨"CAST(" ++ expression.display ++ " AS ", ")", ?_⟩
        simp only [List.append_assoc]
    · exact hplain h
  next => cases hd
  next => exact hplain h

/-! ## Calls inside a text -/

/-- Can the computation end with the text? -/
def Produces (x : Traced Text) (text : Text) : Prop :=
  ∃ console console', runIn x console = (.ok text, console')

theorem produces_of_run {x : Traced Text} {console sql : Text} (h : (runIn x console).1 = .ok sql) :
    Produces x sql :=
  ⟨console, (runIn x console).2, Prod.ext h rfl⟩

theorem ensures_produces (x : Traced Text) : Ensures x (Produces x) :=
  fun console _ console' hrun => ⟨console, console', hrun⟩

/-- Every task that is called for has a text, and it is kept in the given one. -/
def Holds (f : Doc → Traced Text) (leaves : List Leaf) (sql : Text) : Prop :=
  ∀ task, .call task ∈ leaves → ∃ text, Produces (f task) text ∧ Keeps text sql

/-- Every task that is called for has a text, and it is kept in one of the given ones. -/
def HoldsAmong (f : Doc → Traced Text) (leaves : List Leaf) (texts : List Text) : Prop :=
  ∀ task, .call task ∈ leaves → ∃ text, Produces (f task) text ∧ ∃ s ∈ texts, Keeps text s

section
variable {f : Doc → Traced Text} {leaves behind : List Leaf} {sql : Text} {texts : List Text}

theorem holds_nil : Holds f [] sql := nofun

theorem holds_shown {d : Doc} (h : Holds f leaves sql) : Holds f (.shown d :: leaves) sql := by
  intro task htask
  obtain heq | htask := List.mem_cons.1 htask
  · cases heq
  · exact h task htask

theorem Holds.append (h : Holds f leaves sql) (h' : Holds f behind sql) :
    Holds f (leaves ++ behind) sql := by
  intro task htask
  obtain htask | htask := List.mem_append.1 htask
  · exact h task htask
  · exact h' task htask

theorem Holds.keeps {sql' : Text} (h : Holds f leaves sql) (hsql : Keeps sql sql') :
    Holds f leaves sql' := by
  intro task htask
  obtain ⟨text, hproduces, htext⟩ := h task htask
  exact ⟨text, hproduces, htext.trans hsql⟩

theorem Holds.within {sql' : Text} (h : Holds f leaves sql) (hsql : sql <:+: sql') :
    Holds f leaves sql' :=
  h.keeps (keeps_of_isInfix hsql)

theorem holdsAmong_nil : HoldsAmong f [] texts := nofun

theorem Holds.among {texts : List Text} (h : Holds f leaves sql) (hsql : sql ∈ texts) :
    HoldsAmong f leaves texts := by
  intro task htask
  obtain ⟨text, hproduces, htext⟩ := h task htask
  exact ⟨text, hproduces, sql, hsql, htext⟩

theorem HoldsAmong.cons (h : HoldsAmong f leaves texts) (s : Text) :
    HoldsAmong f leaves (s :: texts) := by
  intro task htask
  obtain ⟨text, hproduces, t, ht, htext⟩ := h task htask
  exact ⟨text, hproduces, t, List.mem_cons_of_mem s ht, htext⟩

theorem HoldsAmong.append (h : HoldsAmong f leaves texts) (h' : HoldsAmong f behind texts) :
    HoldsAmong f (leaves ++ behind) texts := by
  intro task htask
  obtain htask | htask := List.mem_append.1 htask
  · exact h task htask
  · exact h' task htask

/-- What keeps each of the texts keeps what they hold. -/
theorem HoldsAmong.holds (h : HoldsAmong f leaves texts) (hsql : ∀ s ∈ texts, Keeps s sql) :
    Holds f leaves sql := by
  intro task htask
  obtain ⟨text, hproduces, s, hs, htext⟩ := h task htask
  exact ⟨text, hproduces, htext.trans (hsql s hs)⟩

theorem HoldsAmong.join (h : HoldsAmong f leaves texts) (separator : Text) :
    Holds f leaves (Text.join separator texts) :=
  h.holds fun _ hs => keeps_of_isInfix (isInfix_join hs)

end

/-! ## Values and conditions -/

section
variable {store : Vector.Store} {f : Doc → Traced Text}

mutual

theorem holds_renderValue (operator : Doc) (v : Value) :
    Ensures (renderValue ⟨store, f⟩ operator v) fun d => Holds f v.leaves d.display := by
  match v with
  | .null =>
    rw [renderValue]
    exact .pure holds_nil
  | .literal content | .column name =>
    rw [renderValue]
    exact .pure (holds_shown holds_nil)
  | .call name arguments =>
    rw [renderValue]
    refine (holds_renderValues arguments).bind fun texts htexts =>
      (Ensures.lift fun call hcall => ?_).bind fun call hcall => .pure hcall
    refine holds_shown (htexts.holds fun s hs => ?_)
    obtain ⟨d, hd, rfl⟩ := List.mem_map.1 hs
    exact keeps_callText hd hcall
  | .choice arms otherwise =>
    rw [renderValue]
    refine (holds_renderArms arms).bind fun cases hcases =>
      (holds_renderOtherwise otherwise).bind fun last hlast => .pure (Holds.append ?_ ?_)
    · refine (hcases.join " ").within ⟨"CASE ", last ++ " END", ?_⟩
      simp only [List.append_assoc]
      rfl
    · exact hlast.within ⟨"CASE " ++ Text.join " " cases, " END", rfl⟩
  | .condition c =>
    rw [renderValue]
    exact (holds_renderCondition c).bind fun text htext => .pure htext
  | .semantic table column term =>
    rw [renderValue]
    exact (Ensures.true _).bind fun _ _ => .pure (holds_shown holds_nil)
  | .subquery task =>
    rw [renderValue]
    refine (ensures_produces (f task)).bind fun text htext => .pure ?_
    intro task' htask'
    cases List.mem_singleton.1 htask'
    exact ⟨text, htext, keeps_of_isInfix ⟨"(", ")", rfl⟩⟩
  | .faulty fault =>
    rw [renderValue]
    exact .throw fault

theorem holds_renderValues (vs : List Value) :
    Ensures (renderValues ⟨store, f⟩ vs) fun ds =>
      HoldsAmong f (Value.leavesOfAll vs) (ds.map Doc.display) := by
  match vs with
  | [] =>
    rw [renderValues]
    exact .pure holdsAmong_nil
  | v :: rest =>
    rw [renderValues]
    exact (holds_renderValue _ v).bind fun d hd => (holds_renderValues rest).bind fun ds hds =>
      .pure ((hd.among List.mem_cons_self).append (hds.cons _))

theorem holds_renderArms (arms : List Arm) :
    Ensures (renderArms ⟨store, f⟩ arms) fun texts => HoldsAmong f (Arm.leavesOfAll arms) texts := by
  match arms with
  | [] =>
    rw [renderArms]
    exact .pure holdsAmong_nil
  | .mk test result :: rest =>
    rw [renderArms]
    refine (holds_renderValue _ test).bind fun test htest =>
      (holds_renderValue _ result).bind fun result hresult =>
      (holds_renderArms rest).bind fun texts htexts => .pure ?_
    have htest : Holds f _ ("WHEN " ++ test.display ++ " THEN " ++ result.display) :=
      htest.within ⟨"WHEN ", " THEN " ++ result.display, by simp only [List.append_assoc]⟩
    have hresult : Holds f _ ("WHEN " ++ test.display ++ " THEN " ++ result.display) :=
      hresult.within (List.suffix_append _ _).isInfix
    exact (htest.among List.mem_cons_self).append
      ((hresult.among List.mem_cons_self).append (htexts.cons _))

theorem holds_renderOtherwise (otherwise : Option Value) :
    Ensures (renderOtherwise ⟨store, f⟩ otherwise) fun text =>
      Holds f (Value.leavesOfOption otherwise) text := by
  match otherwise with
  | none =>
    rw [renderOtherwise]
    exact .pure holds_nil
  | some v =>
    rw [renderOtherwise]
    exact (holds_renderValue _ v).bind fun d hd => .pure (hd.within (List.suffix_append _ _).isInfix)

theorem holds_renderCondition (c : Condition) :
    Ensures (renderCondition ⟨store, f⟩ c) fun text => Holds f c.leaves text := by
  match c with
  | .group connective parts =>
    rw [renderCondition]
    exact (holds_renderConditions parts).bind fun texts htexts =>
      .pure (holds_shown ((htexts.join _).within ⟨"(", ")", rfl⟩))
  | .compare operator left right =>
    rw [renderCondition]
    refine (holds_renderValue _ left).bind fun left hleft =>
      (holds_renderValue _ right).bind fun right hright => .pure (holds_shown (Holds.append ?_ ?_))
    · refine hleft.within ⟨"(", " " ++ operatorText operator right.display ++ " " ++
        right.display ++ ")", ?_⟩
      simp only [compareText, List.append_assoc]
    · exact hright.within ⟨"(" ++ left.display ++ " " ++ operatorText operator right.display ++ " ",
        ")", rfl⟩
  | .faulty fault =>
    rw [renderCondition]
    exact .throw fault

theorem holds_renderConditions (cs : List Condition) :
    Ensures (renderConditions ⟨store, f⟩ cs) fun texts =>
      HoldsAmong f (Condition.leavesOfAll cs) texts := by
  match cs with
  | [] =>
    rw [renderConditions]
    exact .pure holdsAmong_nil
  | c :: rest =>
    rw [renderConditions]
    exact (holds_renderCondition c).bind fun text htext =>
      (holds_renderConditions rest).bind fun texts htexts =>
      .pure ((htext.among List.mem_cons_self).append (htexts.cons _))

end

/-! ## Clauses -/

theorem holdsAmong_of_forall₂ {α β : Type} {leaves : α → List Leaf} {t : β → Text} {xs : List α}
    {ys : List β} (h : List.Forall₂ (fun a b => Holds f (leaves a) (t b)) xs ys) :
    HoldsAmong f (xs.flatMap leaves) (ys.map t) := by
  induction h with
  | nil => exact holdsAmong_nil
  | cons h _ ih =>
    rw [List.flatMap_cons, List.map_cons]
    exact (h.among List.mem_cons_self).append (ih.cons _)

theorem holds_part {α : Type} {leaves : α → List Leaf} {part : Part α} {a : α} {sql : Text}
    (hpart : part = .ok a) (h : Holds f (leaves a) sql) : Holds f (leavesOfPart leaves part) sql := by
  rw [hpart]
  exact h

theorem ensures_ok {α : Type} (part : Part α) :
    Ensures (liftM part : Traced α) fun a => part = .ok a :=
  Ensures.lift fun _ ha => ha

theorem holds_renderOutput (item : Output) :
    Ensures (renderOutput ⟨store, f⟩ item) fun d => Holds f item.leaves d.display := by
  refine (holds_renderValue _ item.value).bind fun d hd => .pure ?_
  unfold Output.leaves
  cases item.label with
  | none => exact hd.append holds_nil
  | some name =>
    refine (hd.within ⟨[], " AS " ++ name, ?_⟩).append (holds_shown holds_nil)
    simp only [Doc.display, List.nil_append, List.append_assoc]

theorem holds_renderTarget (distinct : Part Bool) (target : Target) :
    Ensures (renderTarget ⟨store, f⟩ distinct target) fun text => Holds f target.leaves text := by
  refine (Ensures.true _).bind fun distinct _ => ?_
  cases target with
  | all => exact .pure holds_nil
  | outputs items =>
    refine (ensures_ok items).bind fun outputs hitems =>
      (Ensures.forall₂ fun item _ => holds_renderOutput item).bind fun columns hcolumns =>
      (ensures_ok _).bind fun list hlist => .pure (holds_part hitems ?_)
    refine (holdsAmong_of_forall₂ hcolumns).holds fun s hs => ?_
    obtain ⟨d, hd, rfl⟩ := List.mem_map.1 hs
    exact keeps_of_isInfix ((isInfix_joined hd hlist).trans (List.suffix_append _ _).isInfix)

theorem holds_renderJoin (j : Join) :
    Ensures (renderJoin ⟨store, f⟩ j) fun text => Holds f j.leaves text := by
  refine (ensures_ok j.table).bind fun table htable =>
    (holds_renderCondition j.on).bind fun condition hcondition =>
    (ensures_ok j.kind).bind fun kind hkind => .pure ?_
  exact ((holds_part hkind (holds_shown holds_nil)).append
    (holds_part htable (holds_shown holds_nil))).append
    (hcondition.within (List.suffix_append _ _).isInfix)

theorem holds_renderJoins (joins : List Join) :
    Ensures (renderJoins ⟨store, f⟩ joins) fun text => Holds f (joins.flatMap Join.leaves) text := by
  refine (Ensures.forall₂ fun j _ => holds_renderJoin j).bind fun texts htexts => .pure ?_
  have hamong := holdsAmong_of_forall₂ (t := id) htexts
  rw [List.map_id] at hamong
  exact hamong.join _

theorem holds_renderFilter (keyword : Text) (c : Option Condition) :
    Ensures (renderFilter ⟨store, f⟩ keyword c) fun text =>
      Holds f (leavesOfOption Condition.leaves c) text := by
  cases c with
  | none => exact .pure holds_nil
  | some c =>
    exact (holds_renderCondition c).bind fun text htext =>
      .pure (htext.within (List.suffix_append _ _).isInfix)

theorem holds_renderSortKey (key : SortKey) :
    Ensures (renderSortKey ⟨store, f⟩ key) fun text => Holds f key.leaves text := by
  refine (holds_renderValue _ key.value).bind fun d hd => .pure (holds_shown (hd.within ?_))
  rw [List.append_assoc]
  exact (List.prefix_append _ _).isInfix

theorem holds_renderOrder (keys : Option (Part (List SortKey))) :
    Ensures (renderOrder ⟨store, f⟩ keys) fun text =>
      Holds f (leavesOfOption (leavesOfPart (·.flatMap SortKey.leaves)) keys) text := by
  cases keys with
  | none => exact .pure holds_nil
  | some keys =>
    refine (ensures_ok keys).bind fun items hitems =>
      (Ensures.forall₂ fun key _ => holds_renderSortKey key).bind fun texts htexts =>
      .pure (holds_part hitems ?_)
    have hamong := holdsAmong_of_forall₂ (t := id) htexts
    rw [List.map_id] at hamong
    exact (hamong.join _).within (List.suffix_append _ _).isInfix

theorem holds_renderSetOperations (sql : Text) (operations : List SetOperation) :
    Ensures (renderSetOperations ⟨store, f⟩ sql operations) fun text =>
      Keeps sql text ∧ Holds f (operations.flatMap SetOperation.leaves) text := by
  induction operations generalizing sql with
  | nil => exact .pure ⟨keeps_of_isInfix List.infix_rfl, holds_nil⟩
  | cons s rest ih =>
    refine (ensures_ok s.task).bind fun task htask =>
      (ensures_produces (f task)).bind fun other hother => ?_
    intro console text console' hrun
    obtain ⟨hkeeps, hholds⟩ := ih _ console text console' hrun
    constructor
    · refine (keeps_of_isInfix ⟨"(", ") \n" ++ s.operator.display ++ " \n(" ++ other ++ ")", ?_⟩).trans
        hkeeps
      simp only [List.append_assoc]
    · rw [List.flatMap_cons]
      refine Holds.append (holds_shown (holds_part htask ?_)) hholds
      intro task' htask'
      cases List.mem_singleton.1 htask'
      exact ⟨other, hother, (keeps_of_isInfix ⟨"(" ++ sql ++ ") \n" ++ s.operator.display ++ " \n(",
        ")", rfl⟩).trans hkeeps⟩

theorem holds_links {links : List Link} {sql : Text}
    (hjoins : Holds f ((Link.joins links).flatMap Join.leaves) sql)
    (hset : Holds f ((Link.setOperations links).flatMap SetOperation.leaves) sql) :
    Holds f (links.flatMap Link.leaves) sql := by
  intro task htask
  obtain ⟨link, hlink, htask⟩ := List.mem_flatMap.1 htask
  cases link with
  | join j =>
    exact hjoins task (List.mem_flatMap.2 ⟨j, List.mem_filterMap.2 ⟨_, hlink, rfl⟩, htask⟩)
  | combine s =>
    exact hset task (List.mem_flatMap.2 ⟨s, List.mem_filterMap.2 ⟨_, hlink, rfl⟩, htask⟩)
  | ignored => cases htask

theorem isInfix_clauses {clauses : List Text} {clause : Text} (h : clause ∈ clauses) (separator : Text) :
    clause <:+: Text.join separator (clauses.filter fun c => !c.isEmpty) := by
  cases clause with
  | nil => exact List.nil_infix
  | cons g s => exact isInfix_join (List.mem_filter.2 ⟨h, rfl⟩)

theorem keeps_clauses {clauses : List Text} {clause : Text} (h : clause ∈ clauses) (separator : Text) :
    Keeps clause (Text.join separator (clauses.filter fun c => !c.isEmpty)) :=
  keeps_of_isInfix (isInfix_clauses h separator)

theorem holds_shownPart {α : Type} (document : α → Doc) (part : Part α) (sql : Text) :
    Holds f (leavesOfPart (fun a => [.shown (document a)]) part) sql := by
  intro task htask
  cases part <;> cases List.mem_singleton.1 htask

theorem holds_option {α : Type} {leaves : α → List Leaf} {sql : Text} (o : Option α)
    (h : ∀ a, Holds f (leaves a) sql) : Holds f (leavesOfOption leaves o) sql := by
  cases o with
  | none => exact holds_nil
  | some a => exact h a

/-- The texts of the tasks that a task calls for are kept in its own. -/
theorem holds_renderTask (task : Task) :
    Ensures (renderTask ⟨store, f⟩ task) fun sql => Holds f task.leaves sql := by
  refine (ensures_ok task.links).bind fun links hlinks =>
    (holds_renderTarget task.distinct task.target).bind fun select hselect =>
    (Ensures.true _).bind fun source _ => (holds_renderJoins _).bind fun joins hjoins =>
    (holds_renderFilter _ task.filter).bind fun filter hfilter =>
    (Ensures.true _).bind fun grouping _ =>
    (holds_renderFilter _ task.having).bind fun having hhaving =>
    (holds_renderOrder task.order).bind fun order horder => ?_
  intro console sql console' hrun
  obtain ⟨hbase, hset⟩ := holds_renderSetOperations _ _ console sql console' hrun
  have hclause {clause : Text} (h : clause ∈ _) : Keeps clause sql :=
    (keeps_clauses h "\n").trans hbase
  have hdistinct : Holds f (leavesOfPart (fun _ => []) task.distinct) sql := by
    intro id hid
    cases hpart : task.distinct with
    | ok b =>
      rw [hpart] at hid
      cases hid
    | error cause =>
      rw [hpart] at hid
      cases List.mem_singleton.1 hid
  have hsql : Holds f (leavesOfPart (·.flatMap Link.leaves) task.links) sql :=
    holds_part hlinks (holds_links (hjoins.keeps (hclause (by simp))) hset)
  refine ((((((((hsql.append hdistinct).append (hselect.keeps (hclause (by simp)))).append ?_).append
    (hfilter.keeps (hclause (by simp)))).append ?_).append
    (hhaving.keeps (hclause (by simp)))).append (horder.keeps (hclause (by simp)))).append ?_)
  · exact holds_option _ fun table => holds_shownPart id table sql
  · exact holds_option _ fun columns => holds_shownPart .text columns sql
  · exact holds_option _ fun limit => holds_shown holds_nil

end

/-! ## Entering a task -/

/-- What entering a task gives when `depth` more tasks may be entered inside it. -/
def entered (plan : Plan) (store : Vector.Store) : Nat → Task → Traced Text
  | 0, _ => throw .circular
  | depth + 1, task => renderTask ⟨store, compileTask plan store depth⟩ task

theorem compileTask_eq (plan : Plan) (store : Vector.Store) (depth : Nat) (id : Doc) :
    compileTask plan store depth id = (do
      let number ← id.toInt
      match plan.find? number with
      | none => return missingTask id
      | some task => entered plan store depth task) := by
  cases depth <;> rfl

theorem compileTask_missing {plan : Plan} {id : Doc} {number : Int} (hnumber : id.toInt = .ok number)
    (htask : plan.find? number = none) (store : Vector.Store) (depth : Nat) :
    compileTask plan store depth id = pure (missingTask id) := by
  rw [compileTask_eq, hnumber]
  show (match plan.find? number with
    | none => pure (missingTask id)
    | some task => entered plan store depth task) = _
  rw [htask]

theorem compileTask_entered {plan : Plan} {id : Doc} {number : Int} {task : Task}
    (hnumber : id.toInt = .ok number) (htask : plan.find? number = some task) (store : Vector.Store)
    (depth : Nat) : compileTask plan store depth id = entered plan store depth task := by
  rw [compileTask_eq, hnumber]
  show (match plan.find? number with
    | none => pure (missingTask id)
    | some task => entered plan store depth task) = _
  rw [htask]

/-- A task that has a text was not there, or was entered. -/
theorem produces_entered {plan : Plan} {store : Vector.Store} {depth : Nat} {id : Doc} {sql : Text}
    (h : Produces (compileTask plan store depth id) sql) :
    ∃ number, id.toInt = .ok number ∧
      (plan.find? number = none ∧ sql = missingTask id ∨
        ∃ below task, depth = below + 1 ∧ plan.find? number = some task ∧
          Produces (renderTask ⟨store, compileTask plan store below⟩ task) sql) := by
  obtain ⟨console, console', h⟩ := h
  cases hnumber : id.toInt with
  | error fault =>
    rw [compileTask_eq, hnumber] at h
    cases h
  | ok number =>
    refine ⟨number, rfl, ?_⟩
    cases htask : plan.find? number with
    | none =>
      rw [compileTask_missing hnumber htask] at h
      cases h
      exact .inl ⟨rfl, rfl⟩
    | some task =>
      rw [compileTask_entered hnumber htask] at h
      cases depth with
      | zero => cases h
      | succ below => exact .inr ⟨below, task, rfl, rfl, console, console', h⟩

/-- A task that has a text was not there, or was entered and calls for others that have one. -/
theorem produces_compileTask {plan : Plan} {store : Vector.Store} {depth : Nat} {id : Doc} {sql : Text}
    (h : Produces (compileTask plan store depth id) sql) :
    ∃ number, id.toInt = .ok number ∧
      (plan.find? number = none ∧ sql = missingTask id ∨
        ∃ below task, depth = below + 1 ∧ plan.find? number = some task ∧
          Holds (compileTask plan store below) task.leaves sql) := by
  obtain ⟨number, hnumber, hcases⟩ := produces_entered h
  refine ⟨number, hnumber, hcases.imp_right ?_⟩
  rintro ⟨below, task, hdepth, htask, console, console', h⟩
  exact ⟨below, task, hdepth, htask, holds_renderTask task console sql console' h⟩

end Plan

end QueryBench
