import QueryBench.Page.Show
import QueryBench.Proofs.Compare.Rectangular
import QueryBench.Proofs.Pipeline.Totality

/-!
# The page and the pipeline

Both decide whether the plan for a question is compiled, and each in its own way. The page looks at
every task of the plan and shows whatever text compiling gives. The pipeline looks at the first task
only, adds up the tokens, and takes a text that starts like a comment for an error. Apart from these
differences they agree.

Main definitions: `Page.Achievable`, `Outcome.CountsTokens`. Main statement:
`Page.shows_iff_completed`.
-/
set_option autoImplicit false

namespace QueryBench

namespace Page

/-! ## Elements that are no statements -/

/-- The text and the language of an element that is a statement. -/
def statement? : Element → Option (Text × Text)
  | .code s language => some (s, language)
  | _ => none

theorem code_mem_iff {s language : Text} {elements : List Element} :
    .code s language ∈ elements ↔ (s, language) ∈ elements.filterMap statement? := by
  rw [List.mem_filterMap]
  constructor
  · exact fun h => ⟨_, h, rfl⟩
  · rintro ⟨e, he, hcode⟩
    cases e with
    | code s' language' =>
      cases hcode
      exact he
    | _ => cases hcode

section
variable {α β : Type}

/-- Does the computation show no statement? -/
def Plain (x : Showing α) : Prop :=
  ∀ p s language, Element.code s language ∈ (runIn x p).2.elements →
    Element.code s language ∈ p.elements

theorem plain_put {e : Element} (he : statement? e = none) : Plain (put e) := by
  intro p s language h
  obtain h | h := List.mem_append.1 h
  · exact h
  · rw [← List.mem_singleton.1 h] at he
    cases he

theorem plain_lift (r : Except Fault α) : Plain (liftM r : Showing α) :=
  fun _ _ _ h => h

theorem plain_pure (a : α) : Plain (pure a : Showing α) :=
  fun _ _ _ h => h

theorem Plain.bind {x : Showing α} {f : α → Showing β} (hx : Plain x) (hf : ∀ a, Plain (f a)) :
    Plain (x >>= f) := by
  intro p s language h
  rw [run_bind] at h
  have hfirst := hx p s language
  rcases hrun : runIn x p with ⟨fault | a, p'⟩
  · rw [hrun] at h hfirst
    exact hfirst h
  · rw [hrun] at h hfirst
    exact hfirst (hf a p' s language h)

theorem plain_forM {xs : List α} {f : α → Showing Unit} (hf : ∀ a, Plain (f a)) :
    Plain (xs.forM f) := by
  induction xs with
  | nil => exact plain_pure ()
  | cons a xs ih => exact (hf a).bind fun _ => ih

end

theorem plain_showTask (number : Nat) (task : Doc) : Plain (showTask number task) := by
  have hrest : Plain (do
      put (.document task)
      (← setOperations task).forM fun operation => do
        let target ← operation.member "target_task_id"
        let kind ← operation.member "type"
        put (.markup (combination kind target))) :=
    (plain_put rfl).bind fun _ => (plain_lift _).bind fun operations => plain_forM fun operation =>
      (plain_lift _).bind fun _ => (plain_lift _).bind fun _ => plain_put rfl
  refine (plain_lift _).bind fun id => (plain_put rfl).bind fun _ =>
    (plain_lift _).bind fun flawed => ?_
  cases flawed with
  | true => exact (plain_lift _).bind fun _ => (plain_put rfl).bind fun _ => hrest
  | false => exact hrest

theorem plain_showTasks (number : Nat) (tasks : List Doc) : Plain (showTasks number tasks) := by
  induction tasks generalizing number with
  | nil => exact plain_pure ()
  | cons task rest ih => exact (plain_showTask number task).bind fun _ => ih (number + 1)

theorem plain_showChat (score : Doc) : Plain (showChat score) :=
  (plain_put rfl).bind fun _ => (plain_lift _).bind fun _ => (plain_put rfl).bind fun _ =>
    plain_put rfl

/-! ## What a page shows -/

/-- Has the plan tasks, all of which are said to be achievable? -/
def Achievable (plan : Doc) : Prop :=
  ∃ tasks items, plan.memberD "tasks" (.list []) = .ok tasks ∧ tasks.isVoid = false ∧
    tasks.elements = .ok items ∧ ∀ task ∈ items, isUnachievable task = .ok false

theorem anyUnachievable_eq_false_iff {items : List Doc} :
    anyUnachievable items = .ok false ↔ ∀ task ∈ items, isUnachievable task = .ok false := by
  induction items with
  | nil => exact ⟨fun _ => nofun, fun _ => rfl⟩
  | cons task rest ih =>
    rw [List.forall_mem_cons, ← ih, anyUnachievable]
    cases isUnachievable task with
    | error fault => exact ⟨(nomatch ·), fun h => nomatch h.1⟩
    | ok flawed =>
      cases flawed with
      | true => exact ⟨(nomatch ·), fun h => nomatch h.1⟩
      | false => exact ⟨fun h => ⟨rfl, h⟩, fun h => h.2⟩

/-- Are these the statements among the elements, and shown as such? -/
def Shows (elements : List Element) (P : Text → Prop) : Prop :=
  ∀ s language, Element.code s language ∈ elements ↔ language = "sql" ∧ P s

/-- A page without statements. -/
abbrev Bare (elements : List Element) : Prop :=
  Shows elements fun _ => False

theorem Shows.congr {elements : List Element} {P Q : Text → Prop} (h : Shows elements P)
    (hPQ : ∀ s, P s ↔ Q s) : Shows elements Q :=
  fun s language => (h s language).trans (and_congr_right fun _ => hPQ s)

theorem Bare.after {α : Type} {x : Showing α} {p p' : PageState} {r : Except Fault α}
    (hp : Bare p.elements) (hx : Plain x) (h : runIn x p = (r, p')) : Bare p'.elements := by
  intro s language
  have hplain := hx p s language
  rw [h] at hplain
  exact ⟨fun hmem => (hp s language).1 (hplain hmem), fun hfalse => hfalse.2.elim⟩

theorem Bare.append {elements : List Element} (h : Bare elements) {e : Element}
    (he : statement? e = none) : Bare (elements ++ [e]) :=
  Bare.after (p := ⟨.start, elements⟩) h (plain_put he) rfl

theorem Bare.append_code {elements : List Element} (h : Bare elements) (sql : Text) :
    Shows (elements ++ [.code sql "sql"]) (sql = ·) := by
  intro s language
  constructor
  · intro hmem
    obtain hmem | hmem := List.mem_append.1 hmem
    · exact ((h s language).1 hmem).2.elim
    · cases List.mem_singleton.1 hmem
      exact ⟨rfl, rfl⟩
  · rintro ⟨rfl, rfl⟩
    exact List.mem_append_right _ List.mem_cons_self

theorem run_ofActing {α : Type} (act : Acting α) (p : PageState) :
    runIn (ofActing act) p = ((runIn act p.session).1, ⟨(runIn act p.session).2, p.elements⟩) := rfl

section
variable {α β : Type} {p p' : PageState} {b : β}

theorem Bare.put_bind {e : Element} {f : Unit → Showing β} (hp : Bare p.elements)
    (h : runIn (put e >>= f) p = (.ok b, p')) (he : statement? e = none) :
    ∃ p₁ : PageState, p₁.session = p.session ∧ Bare p₁.elements ∧ runIn (f ()) p₁ = (.ok b, p') :=
  ⟨⟨p.session, p.elements ++ [e]⟩, rfl, hp.append he, h⟩

theorem run_lift_bind_ok {r : Except Fault α} {f : α → Showing β}
    (h : runIn ((liftM r : Showing α) >>= f) p = (.ok b, p')) :
    ∃ a, r = .ok a ∧ runIn (f a) p = (.ok b, p') := by
  obtain ⟨a, p₁, ha, h⟩ := run_bind_ok h
  cases ha
  exact ⟨a, rfl, h⟩

theorem Bare.ofActing_bind {act : Acting α} {f : α → Showing β} (hp : Bare p.elements)
    (h : runIn (ofActing act >>= f) p = (.ok b, p')) :
    ∃ a p₁, runIn act p.session = (.ok a, p₁.session) ∧ Bare p₁.elements ∧
      runIn (f a) p₁ = (.ok b, p') := by
  obtain ⟨a, p₁, ha, h⟩ := run_bind_ok h
  rw [run_ofActing] at ha
  obtain ⟨houtcome, rfl⟩ := Prod.mk.inj ha
  exact ⟨a, ⟨(runIn act p.session).2, p.elements⟩, Prod.ext houtcome rfl, hp, h⟩

end

theorem shows_showStatement {order : SetOrder} {store : Vector.Store} {plan : Plan} {p p' : PageState}
    (hp : Bare p.elements) (h : runIn (showStatement order store plan) p = (.ok (), p')) :
    Shows p'.elements fun s => Yields (plan.compile order store) (.ok s) := by
  obtain ⟨r, hr⟩ := plan.settled_compile order store
  have hiff (s : Text) : Yields (plan.compile order store) (.ok s) ↔ r = .ok s :=
    ⟨fun hs => hr.eq hs, fun hs => hs ▸ hr⟩
  obtain ⟨session, hrun⟩ := hr.act.run p.session
  obtain ⟨p₁, hsession, hp₁, h⟩ := hp.put_bind h rfl
  rw [← hsession] at hrun
  rw [run_tryCatch, run_bind, run_ofActing, hrun] at h
  cases r with
  | error fault =>
    cases h
    refine Shows.congr (hp₁.append rfl) fun s => ?_
    rw [hiff]
    exact ⟨False.elim, (nomatch ·)⟩
  | ok sql =>
    cases h
    refine Shows.congr (hp₁.append_code sql) fun s => ?_
    rw [hiff, Except.ok.injEq]

theorem yields_statement_iff {order : SetOrder} {store : Vector.Store} {d : Doc} {plan : Plan}
    (hplan : Plan.ofDoc d = .ok plan) (s : Text) :
    Yields (plan.compile order store) (.ok s) ↔ Pipeline.compiled order store d = .ok s := by
  have hstatement : Pipeline.statement order store d = plan.compile order store := by
    unfold Pipeline.statement
    rw [hplan]
    rfl
  have hcompiled := Pipeline.yields_statement order store d
  rw [hstatement] at hcompiled
  exact ⟨fun h => hcompiled.eq h, fun h => h ▸ hcompiled⟩

theorem shows_showPlan {order : SetOrder} {store : Vector.Store} {d tasks : Doc}
    (htasks : d.memberD "tasks" (.list []) = .ok tasks) (hvoid : tasks.isVoid = false) {p p' : PageState}
    (hp : Bare p.elements) (h : runIn (showPlan order store d tasks) p = (.ok (), p')) :
    Shows p'.elements fun s => Achievable d ∧ Pipeline.compiled order store d = .ok s := by
  obtain ⟨items, hitems, h⟩ := run_lift_bind_ok h
  obtain ⟨flawed, hflawed, h⟩ := run_lift_bind_ok h
  obtain ⟨plan, hplan, h⟩ := run_lift_bind_ok h
  have hachievable : Achievable d ↔ flawed = false := by
    constructor
    · rintro ⟨tasks', items', htasks', -, hitems', hall⟩
      obtain rfl := Except.ok.inj (htasks.symm.trans htasks')
      obtain rfl := Except.ok.inj (hitems.symm.trans hitems')
      exact Except.ok.inj (hflawed.symm.trans (anyUnachievable_eq_false_iff.2 hall))
    · rintro rfl
      exact ⟨tasks, items, htasks, hvoid, hitems, anyUnachievable_eq_false_iff.1 hflawed⟩
  cases flawed with
  | true =>
    refine Shows.congr (hp.after ((plain_put rfl).bind fun _ => plain_showTasks 1 items) h) fun s => ?_
    rw [hachievable]
    exact ⟨False.elim, fun hs => nomatch hs.1⟩
  | false =>
    refine Shows.congr (shows_showStatement hp h) fun s => ?_
    rw [yields_statement_iff hplan]
    exact ⟨fun hs => ⟨hachievable.2 rfl, hs⟩, fun hs => hs.2⟩

theorem shows_showAnswer {world : World} {d : Decomposer} {question score : Doc} {p p' : PageState}
    (hp : Bare p.elements) (h : runIn (showAnswer world d question score) p = (.ok (), p')) :
    ∃ plan tokens session,
      runIn (d.decompose world.services (.text "financial") question .null) p.session =
        (.ok (plan, tokens), session) ∧
      Shows p'.elements fun s =>
        Achievable plan ∧ Pipeline.compiled world.order world.store plan = .ok s := by
  obtain ⟨p₁, hsession, hp₁, h⟩ := hp.put_bind h rfl
  obtain ⟨⟨plan, tokens⟩, p₂, hplan, hp₂, h⟩ := hp₁.ofActing_bind h
  obtain ⟨tasks, htasks, h⟩ := run_lift_bind_ok h
  obtain ⟨p₃, -, hp₃, h⟩ := hp₂.put_bind h rfl
  obtain ⟨p₄, -, hp₄, h⟩ := hp₃.put_bind h rfl
  obtain ⟨share, -, h⟩ := run_lift_bind_ok h
  obtain ⟨p₅, -, hp₅, h⟩ := hp₄.put_bind h rfl
  obtain ⟨p₆, -, hp₆, h⟩ := hp₅.put_bind h rfl
  obtain ⟨p₇, -, hp₇, h⟩ := hp₆.put_bind h rfl
  rw [hsession] at hplan
  refine ⟨plan, tokens, p₂.session, hplan, ?_⟩
  cases hvoid : tasks.isVoid with
  | true =>
    rw [hvoid] at h
    cases h
    refine Shows.congr (hp₇.append rfl) fun s => ⟨False.elim, ?_⟩
    rintro ⟨⟨tasks', items, htasks', hvoid', -⟩, -⟩
    obtain rfl := Except.ok.inj (htasks.symm.trans htasks')
    rw [hvoid] at hvoid'
    cases hvoid'
  | false =>
    rw [hvoid] at h
    exact shows_showPlan htasks hvoid hp₇ h

/-- What a page that is complete shows: nothing to someone who entered nothing or chats, and otherwise
the statement of the plan. -/
theorem shows_render {world : World} {engine : Engine} {entered : Doc} {session : Session}
    {page : PageState} (h : runIn (render world engine entered) ⟨session, []⟩ = (.ok (), page)) :
    ∃ d, Decomposer.connect engine world.environment world.schemas = .ok d ∧
      (entered.isVoid = true ∧ Bare page.elements ∨
        entered.isVoid = false ∧ ∃ intent score asking,
          runIn (predictIntent world.services entered) session = (.ok (intent, score), asking) ∧
          (intent = .chat ∧ Bare page.elements ∨
            intent = .query ∧ ∃ plan tokens asked,
              runIn (d.decompose world.services (.text "financial") entered .null) asking =
                (.ok (plan, tokens), asked) ∧
              Shows page.elements fun s =>
                Achievable plan ∧ Pipeline.compiled world.order world.store plan = .ok s)) := by
  have hp : Bare ([] : List Element) := fun s language => ⟨nofun, fun hs => hs.2.elim⟩
  obtain ⟨p₁, hs₁, hp₁, h⟩ := hp.put_bind h rfl
  obtain ⟨groq, hgroq, h⟩ := run_lift_bind_ok h
  obtain ⟨gpt, hgpt, h⟩ := run_lift_bind_ok h
  obtain ⟨p₂, hs₂, hp₂, h⟩ := hp₁.put_bind h rfl
  obtain ⟨p₃, hs₃, hp₃, h⟩ := hp₂.put_bind h rfl
  obtain ⟨p₄, hs₄, hp₄, h⟩ := hp₃.put_bind h rfl
  obtain ⟨p₅, hs₅, hp₅, h⟩ := hp₄.put_bind h rfl
  have hsession : p₅.session = session := hs₅.trans (hs₄.trans (hs₃.trans (hs₂.trans hs₁)))
  have hchosen : Decomposer.connect engine world.environment world.schemas =
      .ok (if engine = .gpt then gpt else groq) := by
    cases engine with
    | gpt => exact hgpt
    | groq => exact hgroq
  refine ⟨_, hchosen, ?_⟩
  cases hvoid : entered.isVoid with
  | true =>
    rw [hvoid] at h
    cases h
    exact .inl ⟨rfl, hp₅⟩
  | false =>
    rw [hvoid] at h
    obtain ⟨⟨intent, score⟩, p₆, hintent, hp₆, h⟩ := hp₅.ofActing_bind h
    rw [hsession] at hintent
    refine .inr ⟨rfl, intent, score, p₆.session, hintent, ?_⟩
    cases intent with
    | chat => exact .inl ⟨rfl, hp₆.after (plain_showChat score) h⟩
    | query => exact .inr ⟨rfl, shows_showAnswer hp₆ h⟩

end Page

/-! ## The same plan in the pipeline -/

/-- The plan that a step of the outcome reports. -/
def Steps.plan? : Steps → Option PlanStep
  | filtered _ => none
  | planless _ plan => some plan
  | sqlless _ plan _ => some plan
  | completed _ plan _ _ => some plan

/-- The statement of an outcome that was completed. -/
def Steps.sql? : Steps → Option Text
  | completed _ _ sql _ => some sql
  | _ => none

/-- Can the tokens that were used for the plan be added up? -/
def Outcome.CountsTokens (o : Outcome) : Prop :=
  ∀ plan, o.steps.plan? = some plan → ∃ total, (Doc.int 0).add plan.tokens = .ok total

/-! ### The clock aside

The pipeline reads the clock before it asks, and the page does not. -/

/-- Whatever the computation does, it does so too after another reading of the clock. -/
def Untimed {α : Type} (act : Acting α) : Prop :=
  ∀ s r s', runIn act s = (r, s') → runIn act s.timed = (r, s'.timed)

namespace Untimed
variable {α β : Type}

theorem pure (a : α) : Untimed (Pure.pure a : Acting α) := by
  intro s r s' h
  cases h
  rfl

theorem lift (r : Except Fault α) : Untimed (liftM r : Acting α) := by
  intro s r s' h
  cases h
  rfl

theorem act (x : Traced α) : Untimed x.act := by
  intro s r s' h
  cases h
  rfl

theorem bind {x : Acting α} {f : α → Acting β} (hx : Untimed x) (hf : ∀ a, Untimed (f a)) :
    Untimed (x >>= f) := by
  intro s r s' h
  rw [run_bind] at h ⊢
  rcases hrun : runIn x s with ⟨fault | a, t⟩
  · rw [hrun] at h
    cases h
    rw [hx s _ _ hrun]
  · rw [hrun] at h
    rw [hx s _ t hrun]
    exact hf a t r s' h

theorem tryCatch {x : Acting α} {handler : Fault → Acting α} (hx : Untimed x)
    (hhandler : ∀ fault, Untimed (handler fault)) : Untimed (tryCatch x handler) := by
  intro s r s' h
  rw [run_tryCatch] at h ⊢
  rcases hrun : runIn x s with ⟨fault | a, t⟩
  · rw [hrun] at h
    rw [hx s _ t hrun]
    exact hhandler fault t r s' h
  · rw [hrun] at h
    cases h
    rw [hx s _ _ hrun]

theorem askRouter (services : Services) (text : Doc) : Untimed (askRouter services text) := by
  intro s r s' h
  rw [run_askRouter] at h ⊢
  cases h
  rfl

theorem askModel (services : Services) (request : Request) : Untimed (askModel services request) := by
  intro s r s' h
  rw [run_askModel] at h ⊢
  cases h
  rfl

theorem predictIntent (services : Services) (text : Doc) : Untimed (predictIntent services text) :=
  (askRouter services text).bind fun r => (lift (Intent.ofId r.1)).bind fun _ => pure _

theorem decompose (d : Decomposer) (services : Services) (database question hint : Doc) :
    Untimed (d.decompose services database question hint) := by
  refine (lift (d.schemaOf database)).bind fun schema => ?_
  cases schema.isVoid with
  | true => exact pure _
  | false =>
    refine (lift _).bind fun hint => tryCatch ?_ fun fault => (act _).bind fun _ => pure _
    exact (askModel services _).bind fun r => (lift _).bind fun _ => (lift _).bind fun _ => pure _

end Untimed

namespace Pipeline

theorem run_routeStep {p : Pipeline} (hrouter : p.router = true) {q : Inquiry}
    {session asking : Session} {intent : Intent} {score : Doc}
    (h : runIn (predictIntent p.services q.question) session = (.ok (intent, score), asking)) :
    (p.routeStep q).run session = (.success intent score, asking) := by
  have hrun : (predictIntent p.services q.question).run.run session =
      (.ok (intent, score), asking) := h
  unfold routeStep
  rw [hrouter, if_pos rfl, StateT.run_bind, hrun]
  rfl

theorem run_planStep {p : Pipeline} {d : Decomposer} (hd : p.decomposer = some d) {q : Inquiry}
    {asking asked : Session} {plan tokens : Doc}
    (h : runIn (d.decompose p.services q.database q.question q.hint) asking =
      (.ok (plan, tokens), asked)) :
    (p.planStep q).run asking = (planStepOf plan tokens, asked) := by
  have hrun : (d.decompose p.services q.database q.question q.hint).run.run asking =
      (.ok (plan, tokens), asked) := h
  unfold planStep
  rw [hd]
  dsimp only
  rw [StateT.run_bind, hrun]
  rfl

theorem planStepOf_plan (plan tokens : Doc) :
    (planStepOf plan tokens).1.plan = plan ∧ (planStepOf plan tokens).1.tokens = tokens := by
  unfold planStepOf
  cases (Doc.int 0).add tokens with
  | error fault => exact ⟨rfl, rfl⟩
  | ok total =>
    dsimp only
    cases planStatus plan <;> exact ⟨rfl, rfl⟩

theorem first_of_achievable {tasks : Doc} {items : List Doc} (hvoid : tasks.isVoid = false)
    (hitems : tasks.elements = .ok items)
    (hall : ∀ task ∈ items, Page.isUnachievable task = .ok false) :
    ∃ first, tasks.nth 0 = .ok first ∧ Page.isUnachievable first = .ok false := by
  -- glyphs and names do not say whether they are achievable, so the tasks stand in a list
  cases tasks with
  | list docs =>
    cases hitems
    cases items with
    | nil => cases hvoid
    | cons first rest => exact ⟨first, Compare.nth_list rfl, hall first List.mem_cons_self⟩
  | text t =>
    cases hitems
    cases t with
    | nil => cases hvoid
    | cons g t => cases hall (.text [g]) List.mem_cons_self
  | record fields =>
    cases hitems
    cases fields with
    | nil => cases hvoid
    | cons f fields => cases hall (.text f.1) List.mem_cons_self
  | null | bool b | int n | real x => cases hitems

theorem status_planStepOf {plan tokens total : Doc} (hplan : Page.Achievable plan)
    (htotal : (Doc.int 0).add tokens = .ok total) : (planStepOf plan tokens).1.status = .success := by
  obtain ⟨tasks, items, htasks, hvoid, hitems, hall⟩ := hplan
  obtain ⟨first, hfirst, hachievable⟩ := first_of_achievable hvoid hitems hall
  obtain ⟨achievable, hmember, h⟩ := ok_of_bind hachievable
  have hnot : achievable.isVoid = false := Except.ok.inj h
  have hstatus : planStatus plan = .ok (.success, none) := by
    unfold planStatus
    rw [htasks, ok_bind, hvoid, if_neg Bool.false_ne_true]
    show (tasks.nth 0 >>= _) = _
    rw [hfirst, ok_bind, hmember, ok_bind, hnot]
    rfl
  unfold planStepOf
  rw [htotal]
  dsimp only
  rw [hstatus]

theorem add_of_status {plan tokens : Doc} (h : (planStepOf plan tokens).1.status = .success) :
    ∃ total, (Doc.int 0).add tokens = .ok total := by
  unfold planStepOf at h
  cases hadd : (Doc.int 0).add tokens with
  | error fault =>
    rw [hadd] at h
    cases h
  | ok total => exact ⟨total, rfl⟩

theorem sqlFor_eq_success_iff {order : SetOrder} {store : Vector.Store} {plan : Doc} {s : Text} :
    sqlFor order store plan = .success s ↔
      compiled order store plan = .ok s ∧ ¬ Text.ofString "--" <+: s := by
  constructor
  · intro h
    refine ⟨?_, not_comment_of_sqlFor h⟩
    unfold sqlFor at h
    cases hcompiled : compiled order store plan with
    | error fault =>
      rw [hcompiled] at h
      cases h
    | ok sql =>
      rw [hcompiled] at h
      dsimp only at h
      split at h
      · cases h
      · cases h
        rfl
  · rintro ⟨hcompiled, hcomment⟩
    unfold sqlFor
    rw [hcompiled]
    exact if_neg fun h => hcomment (List.isPrefixOf_iff_prefix.1 h)

theorem plan?_stepsAfter (p : Pipeline) (q : Inquiry) (router : RouterStep) (r : PlanStep × Doc) :
    (p.stepsAfter q router r).plan? = some r.1 := by
  obtain ⟨plan, tokens⟩ := r
  unfold stepsAfter
  dsimp only
  split
  · rfl
  · split <;> rfl

theorem completed_stepsAfter_iff {p : Pipeline} {q : Inquiry} {router : RouterStep}
    {r : PlanStep × Doc} {s : Text} :
    (∃ router' check, p.stepsAfter q router r = .completed router' r.1 s check) ↔
      r.1.status = .success ∧ sqlFor p.order p.store r.1.plan = .success s := by
  obtain ⟨plan, tokens⟩ := r
  unfold stepsAfter
  dsimp only
  by_cases hplan : plan.status = .success
  · rw [if_neg (not_not.2 hplan)]
    cases hsql : sqlFor p.order p.store plan.plan with
    | success sql =>
      constructor
      · rintro ⟨router', check, h⟩
        cases h
        exact ⟨hplan, rfl⟩
      · rintro ⟨-, h⟩
        cases h
        exact ⟨router, _, rfl⟩
    | comment sql reason => exact iff_of_false (by rintro ⟨_, _, h⟩; cases h) (fun h => nomatch h.2)
    | error message => exact iff_of_false (by rintro ⟨_, _, h⟩; cases h) (fun h => nomatch h.2)
  · rw [if_pos hplan]
    exact iff_of_false (by rintro ⟨_, _, h⟩; cases h) (fun h => hplan h.1)

section
variable (p : Pipeline) (q : Inquiry) (router : RouterStep) (plan tokens : Doc)

theorem countsTokens_iff (question gold total : Doc) (time : Float) :
    Outcome.CountsTokens
        ⟨question, gold, p.stepsAfter q router (planStepOf plan tokens), total, time⟩ ↔
      ∃ sum, (Doc.int 0).add tokens = .ok sum := by
  have hplan := plan?_stepsAfter p q router (planStepOf plan tokens)
  have htokens := (planStepOf_plan plan tokens).2
  constructor
  · intro h
    rw [← htokens]
    exact h _ hplan
  · intro h step hstep
    obtain rfl := Option.some.inj (hplan.symm.trans hstep)
    rwa [htokens]

/-- A statement that no task of the plan objects to is compiled unless it is a comment or the tokens
cannot be added up. -/
theorem completed_iff_compiled (s : Text) :
    (∃ router' step check, p.stepsAfter q router (planStepOf plan tokens) =
        .completed router' step s check ∧ Page.Achievable step.plan) ↔
      (Page.Achievable plan ∧ compiled p.order p.store plan = .ok s) ∧ ¬ Text.ofString "--" <+: s ∧
        ∃ total, (Doc.int 0).add tokens = .ok total := by
  have hplan := plan?_stepsAfter p q router (planStepOf plan tokens)
  have hgiven := (planStepOf_plan plan tokens).1
  constructor
  · rintro ⟨router', step, check, hsteps, hachievable⟩
    obtain rfl := Option.some.inj ((congrArg Steps.plan? hsteps).symm.trans hplan)
    obtain ⟨hstatus, hsql⟩ := completed_stepsAfter_iff.1 ⟨router', check, hsteps⟩
    rw [hgiven] at hsql hachievable
    obtain ⟨hcompiled, hcomment⟩ := sqlFor_eq_success_iff.1 hsql
    exact ⟨⟨hachievable, hcompiled⟩, hcomment, add_of_status hstatus⟩
  · rintro ⟨⟨hachievable, hcompiled⟩, hcomment, total, htotal⟩
    have hsql : sqlFor p.order p.store (planStepOf plan tokens).1.plan = .success s := by
      rw [hgiven]
      exact sqlFor_eq_success_iff.2 ⟨hcompiled, hcomment⟩
    obtain ⟨router', check, hsteps⟩ :=
      completed_stepsAfter_iff.2 ⟨status_planStepOf hachievable htotal, hsql⟩
    exact ⟨router', _, check, hsteps, by rwa [hgiven]⟩

end

end Pipeline

/-- The page shows a statement that is no comment, for a plan whose tokens can be counted, exactly if
something was entered, the pipeline has compiled the statement, and every task of its plan is
achievable. -/
theorem Page.shows_iff_completed {world : World} {engine : Engine} {entered : Doc} {session : Session}
    {page : PageState} (hpage : runIn (render world engine entered) ⟨session, []⟩ = (.ok (), page))
    {model console console' : Text} (hmodel : model = "gpt" ↔ engine = .gpt) {p : Pipeline}
    (hstart : runIn (Pipeline.start world model) console = (.ok p, console')) {gold : Doc} {o : Outcome}
    {after : Session} (ho : (p.process ⟨entered, .text "financial", gold, .null⟩).run session = (o, after))
    (s : Text) :
    (.code s "sql" ∈ page.elements ∧ ¬ Text.ofString "--" <+: s ∧ o.CountsTokens) ↔
      entered.isVoid = false ∧
        ∃ router step check, o.steps = .completed router step s check ∧ Achievable step.plan := by
  obtain ⟨d, hd, hshows⟩ := shows_render hpage
  obtain rfl : Pipeline.ofWorld world d = p := by
    have hengine : (if model = "gpt" then Engine.gpt else .groq) = engine := by
      by_cases hgpt : model = "gpt"
      · rw [if_pos hgpt, hmodel.1 hgpt]
      · rw [if_neg hgpt]
        cases engine with
        | gpt => exact absurd (hmodel.2 rfl) hgpt
        | groq => rfl
    have hstarted : Pipeline.started world model = .ok (Pipeline.ofWorld world d) := by
      unfold Pipeline.started
      rw [hengine, hd]
      rfl
    rw [← Pipeline.yields_start world model console, hstart] at hstarted
    exact (Except.ok.inj hstarted).symm
  -- where nothing is entered the page is bare
  obtain ⟨hvoid, hbare⟩ | ⟨hvoid, intent, score, asking, hintent, hrouted⟩ := hshows
  · refine iff_of_false (fun h => ((hbare s "sql").1 h.1).2) fun h => ?_
    rw [hvoid] at h
    cases h.1
  -- both ask the router first, and so both know chat
  let q : Inquiry := ⟨entered, .text "financial", gold, .null⟩
  have hroute := Pipeline.run_routeStep (p := Pipeline.ofWorld world d) (q := q) rfl
    (Untimed.predictIntent world.services entered _ _ _ hintent)
  obtain ⟨rfl, hbare⟩ | ⟨rfl, plan, tokens, asked, hplan, hshows⟩ := hrouted
  · obtain ⟨time, houtcome⟩ := Pipeline.process_of_chat hroute
    rw [ho] at houtcome
    obtain rfl := houtcome
    refine iff_of_false (fun h => ((hbare s "sql").1 h.1).2) ?_
    rintro ⟨-, router, step, check, h, -⟩
    cases h
  -- then both ask for a plan in the same session, and get the same one
  have hstep := Pipeline.run_planStep (p := Pipeline.ofWorld world d) (q := q) rfl
    (Untimed.decompose d world.services _ _ _ _ _ _ hplan)
  obtain ⟨time, rfl⟩ : ∃ time, o = ⟨entered, gold, (Pipeline.ofWorld world d).stepsAfter q
      (.success .query score) (Pipeline.planStepOf plan tokens),
      (Pipeline.planStepOf plan tokens).2, time⟩ := by
    rcases hgiven : Pipeline.planStepOf plan tokens with ⟨step, total⟩
    rw [hgiven] at hstep
    have h := Pipeline.process_of_routed hroute (fun _ => nofun) hstep
    rwa [ho] at h
  rw [hshows s "sql", Pipeline.countsTokens_iff, Pipeline.completed_iff_compiled]
  exact ⟨fun h => ⟨hvoid, h.1.2, h.2⟩, fun h => ⟨⟨rfl, h.2.1⟩, h.2.2⟩⟩

/-! ## Plans that the two take differently -/

namespace Page

/-- A world whose model gives the plan. -/
def planningWorld (plan : Doc) : World where
  services :=
    { router := fun _ _ => .answer (.int 1) (.real 1.0)
      model := fun _ _ => .answer (.text (Json.write .line plan)) (.int 7)
      clock := fun _ => 0.0 }
  environment := fun _ => some "key"
  order := .given
  store := ⟨[]⟩
  database := ⟨none, []⟩
  schemas := some (.record [("financial", .text "t")])
  folder := ""
  program := ""

/-- A pipeline whose model replies with one plan. -/
def planningPipeline (plan : Doc) : Pipeline :=
  .ofWorld (planningWorld plan) ⟨.groq, .record [("financial", .text "t")]⟩

theorem run_start_planning (plan : Doc) : ∃ console,
    runIn (Pipeline.start (planningWorld plan) "groq") "" = (.ok (planningPipeline plan), console) :=
  (Pipeline.yields_start (planningWorld plan) "groq").run ""

theorem exists_page (plan : Doc) (shown : List (Text × Text))
    (h : (runIn (render (planningWorld plan) .groq (.text "q")) ⟨.start, []⟩).1.toOption = some () ∧
      (runIn (render (planningWorld plan) .groq (.text "q")) ⟨.start, []⟩).2.elements.filterMap
        statement? = shown) :
    ∃ page, runIn (render (planningWorld plan) .groq (.text "q")) ⟨.start, []⟩ = (.ok (), page) ∧
      page.elements.filterMap statement? = shown := by
  rcases hpage : runIn (render (planningWorld plan) .groq (.text "q")) ⟨.start, []⟩ with ⟨r, page⟩
  rw [hpage] at h
  obtain rfl : r = .ok () := ok_of_toOption h.1
  exact ⟨page, rfl, h.2⟩

def loanPlan : Doc :=
  .record [("tasks", .list [.record [("task_id", .int 1), ("main_table", .text "loan")]])]

def loanStatement : Text :=
  "SELECT *\nFROM \"loan\""

theorem shows_iff_completed_loan : ∃ router step check,
    (((planningPipeline loanPlan).process ⟨.text "q", .text "financial", .null, .null⟩).run
      .start).1.steps = .completed router step loanStatement check ∧
    Achievable step.plan := by
  obtain ⟨page, hpage, hcode⟩ := exists_page loanPlan [(loanStatement, Text.ofString "sql")]
    (by decide +kernel)
  have htokens : ((((planningPipeline loanPlan).process
      ⟨.text "q", .text "financial", .null, .null⟩).run .start).1.steps.plan?.all
      fun plan => ((Doc.int 0).add plan.tokens).toOption.isSome) = true := by decide +kernel
  obtain ⟨console, hstart⟩ := run_start_planning loanPlan
  have hmodel : Text.ofString "groq" = "gpt" ↔ Engine.groq = .gpt :=
    iff_of_false (by decide) (by decide)
  rcases ho : ((planningPipeline loanPlan).process ⟨.text "q", .text "financial", .null, .null⟩).run
    .start with ⟨o, after⟩
  rw [ho] at htokens
  have hiff := shows_iff_completed hpage hmodel hstart ho loanStatement
  have hcounts : o.CountsTokens := by
    intro plan hplan
    rw [hplan] at htokens
    obtain ⟨total, htotal⟩ := Option.isSome_iff_exists.1 htokens
    exact ⟨total, ok_of_toOption htotal⟩
  have hshown : .code loanStatement "sql" ∈ page.elements := by
    rw [code_mem_iff, hcode]
    exact List.mem_cons_self
  exact (hiff.1 ⟨hshown, by decide, hcounts⟩).2

/-- A plan whose second task, its root, cannot be achieved. -/
def halfPlan : Doc :=
  .record [("tasks", .list [.record [("task_id", .int 1), ("main_table", .text "loan")],
    .record [("task_id", .int 2), ("is_achievable", .bool false), ("error", .text "no such column"),
      ("main_table", .text "card")]])]

/-- A plan whose task has a text for an id, by which it is not found. -/
def misnamedPlan : Doc :=
  .record [("tasks", .list [.record [("task_id", .text "1"), ("main_table", .text "loan")]])]

/-- The pipeline compiles a plan that the page refuses, and the page shows a text as a statement that
the pipeline refuses. -/
theorem executable_differs :
    (∃ page o after,
      runIn (render (planningWorld halfPlan) .groq (.text "q")) ⟨.start, []⟩ = (.ok (), page) ∧
      Bare page.elements ∧
      ((planningPipeline halfPlan).process ⟨.text "q", .text "financial", .null, .null⟩).run .start =
        (o, after) ∧
      o.steps.sql? = some "SELECT *\nFROM \"card\"") ∧
    ∃ page o after,
      runIn (render (planningWorld misnamedPlan) .groq (.text "q")) ⟨.start, []⟩ = (.ok (), page) ∧
      .code "-- Error: Task 1 not found" "sql" ∈ page.elements ∧
      ((planningPipeline misnamedPlan).process ⟨.text "q", .text "financial", .null, .null⟩).run .start =
        (o, after) ∧
      o.steps.sql? = none := by
  constructor
  · obtain ⟨page, hpage, hcode⟩ := exists_page halfPlan [] (by decide +kernel)
    have hsql : (((planningPipeline halfPlan).process
        ⟨.text "q", .text "financial", .null, .null⟩).run .start).1.steps.sql? =
        some "SELECT *\nFROM \"card\"" := by decide +kernel
    refine ⟨page, _, _, hpage, fun s language => ?_, Prod.eta _ |>.symm, hsql⟩
    rw [code_mem_iff, hcode]
    exact iff_of_false nofun fun h => h.2
  · obtain ⟨page, hpage, hcode⟩ := exists_page misnamedPlan
      [(Text.ofString "-- Error: Task 1 not found", Text.ofString "sql")] (by decide +kernel)
    have hsql : (((planningPipeline misnamedPlan).process
        ⟨.text "q", .text "financial", .null, .null⟩).run .start).1.steps.sql? = none := by
      decide +kernel
    refine ⟨page, _, _, hpage, ?_, Prod.eta _ |>.symm, hsql⟩
    rw [code_mem_iff, hcode]
    exact List.mem_cons_self

end Page

end QueryBench
