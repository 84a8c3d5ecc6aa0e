import QueryBench.Proofs.Plan.Calls
import QueryBench.Proofs.Text.Balanced

/-!
# Balanced statements

Where every text of a plan and of the entries found for its terms is balanced, so is every statement
that comes of it: what is put between the texts is balanced, and parentheses are added in pairs.

Main definitions: `Doc.texts`, `Doc.Balanced`, `Vector.Store.Balanced`. Main statement:
`Plan.statements_balanced`.
-/
set_option autoImplicit false

namespace QueryBench

/-! ## Documents -/

namespace Doc

mutual

/-- The texts in a document at any depth, the keys of records among them. -/
def texts : Doc → List Text
  | .text s => [s]
  | .list items => itemTexts items
  | .record fields => fieldTexts fields
  | _ => []

def itemTexts : List Doc → List Text
  | [] => []
  | d :: rest => texts d ++ itemTexts rest

def fieldTexts : List (Text × Doc) → List Text
  | [] => []
  | (key, d) :: rest => key :: (texts d ++ fieldTexts rest)

end

/-- Are all texts in the document balanced? -/
def Balanced (d : Doc) : Prop :=
  ∀ s ∈ d.texts, Text.Balanced s

instance (d : Doc) : Decidable d.Balanced :=
  inferInstanceAs (Decidable (∀ s ∈ d.texts, Text.Balanced s))

theorem balanced_text {s : Text} : Balanced (.text s) ↔ Text.Balanced s :=
  List.forall_mem_singleton

theorem balanced_list {items : List Doc} : Balanced (.list items) ↔ ∀ d ∈ items, d.Balanced := by
  have htexts : (Doc.list items).texts = items.flatMap texts := by
    rw [texts]
    induction items with
    | nil => rfl
    | cons d rest ih => rw [itemTexts, ih, List.flatMap_cons]
  rw [Balanced, htexts, List.forall_mem_flatMap]
  rfl

theorem balanced_record {fields : List (Text × Doc)} :
    Balanced (.record fields) ↔ ∀ f ∈ fields, Text.Balanced f.1 ∧ f.2.Balanced := by
  have htexts : (Doc.record fields).texts = fields.flatMap fun f => f.1 :: f.2.texts := by
    rw [texts]
    induction fields with
    | nil => rfl
    | cons f rest ih => rw [fieldTexts, ih, List.flatMap_cons, List.cons_append]
  rw [Balanced, htexts, List.forall_mem_flatMap]
  simp only [List.forall_mem_cons]
  rfl

theorem literals_eq (items : List Doc) : literals items = items.map literal := by
  induction items with
  | nil => rfl
  | cons d rest ih => rw [literals, ih, List.map_cons]

theorem fieldLiterals_eq (fields : List (Text × Doc)) :
    fieldLiterals fields = fields.map fun f => Text.quoted f.1 ++ ": " ++ f.2.literal := by
  induction fields with
  | nil => rfl
  | cons f rest ih => rw [fieldLiterals, ih, List.map_cons]

theorem Balanced.literal {d : Doc} (hd : d.Balanced) : Text.Balanced d.literal := by
  induction d using nested with
  | null => decide
  | bool b => cases b <;> decide
  | int n => exact Text.balanced_of_parens (Text.parens_of_unmarked (Json.unmarked_int n))
  | real x => exact Text.balanced_of_parens (Text.parens_of_unmarked (Json.unmarked_real x))
  | text s => exact (balanced_text.1 hd).of_parens (Text.parens_quoted s)
  | list items ih =>
    rw [Doc.literal, literals_eq]
    refine (Text.Balanced.append (by decide) (Text.Balanced.join (by decide) fun s hs => ?_)).append
      (by decide)
    obtain ⟨d, hmem, rfl⟩ := List.mem_map.1 hs
    exact ih d hmem (balanced_list.1 hd d hmem)
  | record fields ih =>
    rw [Doc.literal, fieldLiterals_eq]
    refine (Text.Balanced.append (by decide) (Text.Balanced.join (by decide) fun s hs => ?_)).append
      (by decide)
    obtain ⟨f, hmem, rfl⟩ := List.mem_map.1 hs
    obtain ⟨hkey, hvalue⟩ := balanced_record.1 hd f hmem
    exact ((hkey.of_parens (Text.parens_quoted f.1)).append (by decide)).append (ih f hmem hvalue)

/-- The text of a document with balanced texts is balanced. -/
theorem Balanced.display {d : Doc} (hd : d.Balanced) : Text.Balanced d.display := by
  cases d with
  | text s => exact balanced_text.1 hd
  | _ => exact hd.literal

theorem Balanced.field {d v : Doc} {key : Text} (hd : d.Balanced) (hv : d.field key = .ok v) :
    v.Balanced := by
  have h := Plan.sound_field (d := d) key fun fields hfields w hw => by
    subst hfields
    obtain ⟨before, behind, rfl, -⟩ := List.lookup_eq_some_iff.1 hw
    exact (balanced_record.1 hd (key, w) (by simp)).2
  rw [hv] at h
  exact h

end Doc

/-! ## Searches -/

namespace Vector

/-- Are all texts balanced that a store has beside the entries it finds? -/
def Store.Balanced (store : Store) : Prop :=
  ∀ name query count hits, store.query name query count = .ok hits → ∀ hit ∈ hits, hit.info.Balanced

/-- A store is balanced if all that it holds is. -/
theorem Store.balanced_of_hits {store : Store}
    (h : ∀ c ∈ store.collections, ∀ known, c.2 = .answering known →
      ∀ entry ∈ known, ∀ hit ∈ entry.2, hit.info.Balanced) : store.Balanced := by
  intro name query count hits hhits
  unfold Store.query at hhits
  split at hhits
  · cases hhits
  · cases hhits
  next known hlookup =>
    obtain ⟨before, behind, heq, -⟩ := List.lookup_eq_some_iff.1 hlookup
    have hknown := h (name, .answering known) (by rw [heq]; simp) known rfl
    have hentry (key : Text) : ∀ hit ∈ (known.lookup key).getD [], hit.info.Balanced := by
      cases hfound : known.lookup key with
      | none => exact nofun
      | some entry =>
        obtain ⟨before, behind, rfl, -⟩ := List.lookup_eq_some_iff.1 hfound
        exact hknown (key, entry) (by simp)
    have hfor : ∀ hit ∈ hitsFor known query, hit.info.Balanced := by
      unfold hitsFor
      split
      next s =>
        have hs := hentry s
        revert hs
        cases known.lookup s with
        | none => exact fun _ => hentry "*"
        | some entry => exact id
      next => exact hentry "*"
    unfold firstItems at hhits
    split at hhits
    · cases hhits
      exact hfor
    · split at hhits
      · cases hhits
        intro hit hhit
        split at hhit <;> exact hfor hit (List.mem_of_mem_take hhit)
      · cases hhits

theorem balanced_valueText {d : Doc} (hd : d.Balanced) : Text.Balanced (valueText d) := by
  cases d with
  | text s => exact ((by decide : Text.Balanced "'").append (Doc.balanced_text.1 hd)).append (by decide)
  | _ => exact hd.display

theorem mem_acceptFurther {taken : List Doc} {candidates : List Candidate} {d : Doc}
    (hd : d ∈ acceptFurther taken candidates) : d ∈ taken ∨ ∃ c ∈ candidates, d = c.value := by
  fun_induction acceptFurther taken candidates with
  | case1 => exact .inl hd
  | case2 taken c rest _ ih =>
    obtain hd | ⟨c', hc', rfl⟩ := ih hd
    · rw [List.mem_append, List.mem_singleton] at hd
      exact hd.imp_right fun hd => ⟨c, List.mem_cons_self, hd⟩
    · exact .inr ⟨c', List.mem_cons_of_mem c hc', rfl⟩
  | case3 taken c rest _ ih =>
    obtain hd | ⟨c', hc', rfl⟩ := ih hd
    · exact .inl hd
    · exact .inr ⟨c', List.mem_cons_of_mem c hc', rfl⟩

theorem mem_accepted {operator d : Doc} {candidates : List Candidate}
    (hd : d ∈ accepted operator candidates) : ∃ c ∈ candidates, d = c.value := by
  cases candidates with
  | nil => cases hd
  | cons first rest =>
    have hfirst {d : Doc} (hd : d ∈ [first.value]) : ∃ c ∈ first :: rest, d = c.value :=
      ⟨first, List.mem_cons_self, List.mem_singleton.1 hd⟩
    rw [accepted] at hd
    split at hd
    · obtain hd | ⟨c, hc, rfl⟩ := mem_acceptFurther hd
      · exact hfirst hd
      · exact ⟨c, List.mem_cons_of_mem first hc, rfl⟩
    · exact hfirst hd

theorem balanced_select {operator : Doc} {hits : List Hit} (hhits : ∀ hit ∈ hits, hit.info.Balanced)
    {found : Text} {c : Float} (h : select operator hits = .ok (some found, c)) :
    Text.Balanced found := by
  obtain ⟨candidates, hcandidates, h⟩ := ok_of_bind h
  have hvalues : ∀ c ∈ candidates, c.value.Balanced := by
    refine forall_mem_of_forall₂ (mapM_eq_ok_iff.1 hcandidates) fun hit hhit c hc => ?_
    rw [Hit.candidate] at hc
    obtain ⟨score, -, hc⟩ := ok_of_bind hc
    obtain ⟨v, hv, hc⟩ := ok_of_bind hc
    cases hc
    exact (hhits hit hhit).field hv
  cases candidates with
  | nil => cases h
  | cons first rest =>
    cases h
    refine Text.Balanced.join (by decide) fun s hs => ?_
    obtain ⟨d, hd, rfl⟩ := List.mem_map.1 hs
    obtain ⟨c, hc, rfl⟩ := mem_accepted hd
    exact balanced_valueText (hvalues c hc)

theorem balanced_search {store : Store} (hstore : store.Balanced)
    (table column query operator count : Doc) :
    Ensures (search store table column query operator count) fun r =>
      ∀ found, r.1 = some found → Text.Balanced found := by
  unfold search reportFailure
  split
  next r hr =>
    obtain ⟨found?, c⟩ := r
    refine .pure fun found hfound => ?_
    obtain ⟨hits, hhits, hr⟩ := ok_of_bind hr
    obtain rfl : found? = some found := hfound
    exact balanced_select (hstore _ _ _ _ hhits) hr
  next fault _ => exact (Ensures.true _).bind fun _ _ => .pure nofun

end Vector

/-! ## Leaves -/

namespace Plan

/-- Is what the leaf shows balanced? -/
def Leaf.Balanced : Leaf → Prop
  | .shown d => d.Balanced
  | _ => True

theorem balanced_of_leaf {d : Doc} (h : AllLeaves Leaf.Balanced [.shown d]) : d.Balanced :=
  h (.shown d) List.mem_cons_self

theorem parens_quoteWords {s quoted : Text} (h : quoteWords s = .ok quoted) :
    Text.parens quoted = Text.parens s := by
  unfold quoteWords at h
  split at h
  · cases h
  next name rest hwords =>
    have hname : Text.parens (if Text.startsWith "\"" name then name else "\"" ++ name ++ "\"") =
        Text.parens name := by
      split
      · rfl
      · rw [Text.parens_append, Text.parens_append]
        exact List.append_nil _
    cases h
    -- the quotes and blanks around words are no parentheses
    rw [← Text.parens_words s, hwords, List.flatMap_cons]
    split
    next hrest => rw [hname, List.isEmpty_iff.1 hrest, List.flatMap_nil, List.append_nil]
    next =>
      rw [Text.parens_append, Text.parens_append, hname, Text.parens_join rfl]
      exact congrArg (· ++ _) (List.append_nil _)

theorem balanced_quoteTable {d quoted : Doc} (hd : d.Balanced) (h : quoteTable d = .ok quoted) :
    quoted.Balanced := by
  unfold quoteTable at h
  split at h
  · cases h
    exact hd
  · obtain ⟨s, hs, h⟩ := ok_of_bind h
    obtain ⟨sql, hsql, h⟩ := ok_of_bind h
    cases h
    have htext := sound_textFor "strip" d
    rw [hs] at htext
    obtain rfl : d = .text s := htext
    refine Doc.balanced_text.2 ((Doc.balanced_text.1 hd).of_parens ?_)
    exact parens_quoteWords hsql

theorem balanced_groupingOf {d : Doc} {columns : Text} (hd : d.Balanced)
    (h : groupingOf d = .ok columns) : Text.Balanced columns := by
  unfold groupingOf at h
  split at h
  next items hitems =>
    obtain ⟨texts, htexts, h⟩ := ok_of_bind h
    cases h
    have hitems' := eq_map_of_textsFrom htexts
    cases d with
    | list ds =>
      cases hitems
      refine Text.Balanced.join (by decide) fun s hs => ?_
      refine Doc.balanced_text.1 (Doc.balanced_list.1 hd (.text s) ?_)
      rw [hitems']
      exact List.mem_map_of_mem hs
    | text s =>
      -- the glyphs of a text come one by one, with its parentheses in their order
      obtain rfl : texts = s.map fun g => [g] := by
        refine List.map_injective_iff.2 (fun a b hab => Doc.text.inj hab) ?_
        rw [← hitems', ← Except.ok.inj hitems, List.map_map]
        rfl
      refine (Doc.balanced_text.1 hd).of_parens ((Text.parens_join rfl _).trans ?_)
      rw [List.flatMap_map]
      exact (Text.parens_flatMap_eq _ s).symm.trans (Text.parens_flatMap (fun g => rfl) s)
    | record fields =>
      refine Text.Balanced.join (by decide) fun s hs => ?_
      have hmem : Doc.text s ∈ items := hitems' ▸ List.mem_map_of_mem hs
      rw [← Except.ok.inj hitems] at hmem
      obtain ⟨f, hf, heq⟩ := List.mem_map.1 hmem
      exact Doc.text.inj heq ▸ (Doc.balanced_record.1 hd f hf).1
    | _ => cases hitems
  next => cases h

theorem inherits_balanced : Inherits Doc.Balanced Leaf.Balanced where
  item h := Doc.balanced_list.1 h
  field h f hf := (Doc.balanced_record.1 h f hf).2
  null := nofun
  empty := nofun
  noText := Doc.balanced_text.2 (by decide)
  ascending := Doc.balanced_text.2 (by decide)
  shown h := h
  display h := Doc.balanced_text.2 h.display
  upper {s} h := Doc.balanced_text.2 ((Doc.balanced_text.1 h).of_parens (Text.parens_upper s))
  quoted h hquoted := balanced_quoteTable h hquoted
  grouped h hgrouped := Doc.balanced_text.2 (balanced_groupingOf h hgrouped)
  call _ := trivial
  fault _ := trivial

/-! ## Values and conditions -/

theorem balanced_constantText {d : Doc} (hd : d.Balanced) : Text.Balanced (constantText d) := by
  cases d with
  | null => decide
  | text s =>
    exact ((by decide : Text.Balanced "'").append (Doc.balanced_text.1 hd)).append (by decide)
  | _ => exact hd.display

theorem balanced_literalText {d : Doc} (hd : d.Balanced) : Text.Balanced (literalText d) := by
  cases d with
  | list items =>
    refine (Text.Balanced.join (by decide) fun s hs => ?_).wrap
    obtain ⟨d, hmem, rfl⟩ := List.mem_map.1 hs
    exact balanced_constantText (Doc.balanced_list.1 hd d hmem)
  | text s =>
    rw [literalText]
    split
    · exact Doc.balanced_text.1 hd
    · exact balanced_constantText hd
  | _ => exact balanced_constantText hd

theorem balanced_joined {separator list : Text} {items : List Doc} (hseparator : Text.Balanced separator)
    (hitems : ∀ d ∈ items, d.Balanced) (h : Doc.joined separator items = .ok list) :
    Text.Balanced list := by
  obtain ⟨texts, htexts, h⟩ := ok_of_bind h
  cases h
  rw [eq_map_of_textsFrom htexts, List.forall_mem_map] at hitems
  exact hseparator.join fun s hs => Doc.balanced_text.1 (hitems s hs)

theorem balanced_callText {name call : Text} {arguments : List Doc} (hname : Text.Balanced name)
    (harguments : ∀ d ∈ arguments, d.Balanced) (h : callText name arguments = .ok call) :
    Text.Balanced call := by
  have hplain (h : callText.plainCall name arguments = .ok call) : Text.Balanced call := by
    obtain ⟨list, hlist, h⟩ := ok_of_bind h
    cases h
    have hcall := hname.append (balanced_joined (by decide) harguments hlist).wrap
    rwa [← List.append_assoc, ← List.append_assoc] at hcall
  unfold callText at h
  split at h
  next expression type =>
    split at h
    · obtain ⟨s, hs, h⟩ := ok_of_bind h
      cases h
      have htext := sound_textFor "replace" type
      rw [hs] at htext
      obtain rfl : type = .text s := htext
      simp only [List.forall_mem_cons] at harguments
      have htype : Text.Balanced (Text.replaceChar '"' [] (Text.replaceChar '\'' [] s)) := by
        refine (Doc.balanced_text.1 harguments.2.1).of_parens ?_
        rw [Text.parens_replaceChar (by decide), Text.parens_replaceChar (by decide)]
      have hinside : Text.Balanced (expression.display ++ " AS " ++
          Text.replaceChar '"' [] (Text.replaceChar '\'' [] s)) :=
        (harguments.1.display.append (by decide)).append htype
      have hcast : Text.Balanced ("CAST(" ++ (expression.display ++ " AS " ++
          Text.replaceChar '"' [] (Text.replaceChar '\'' [] s)) ++ ")") :=
        hinside.between (by decide) (by decide)
      simpa only [List.append_assoc] using hcast
    · exact hplain h
  next =>
    split at h
    · cases h
      decide
    · exact hplain h
  next => exact hplain h

theorem balanced_compareText {operator left right : Doc} (hoperator : operator.Balanced)
    (hleft : left.Balanced) (hright : right.Balanced) :
    Text.Balanced (compareText operator left right) := by
  have htext : Text.Balanced (operatorText operator right.display) := by
    unfold operatorText
    split
    · split
      · decide
      · split
        · decide
        · exact hoperator.display
    · exact hoperator.display
  have hinside := (((hleft.display.append (t := " ") (by decide)).append htext).append (t := " ")
    (by decide)).append hright.display
  have hcompare := hinside.wrap
  simpa only [compareText, List.append_assoc] using hcompare

/-- Is all that the text of a node depends on balanced? -/
structure Context.Balanced (ctx : Context) : Prop where
  store : ctx.store.Balanced
  subquery : ∀ id, Ensures (ctx.subquery id) Text.Balanced

section
variable {ctx : Context}

mutual

theorem balanced_renderValue (hctx : ctx.Balanced) {operator : Doc} {v : Value}
    (hv : AllLeaves Leaf.Balanced v.leaves) :
    Ensures (renderValue ctx operator v) Doc.Balanced := by
  match v with
  | .null =>
    rw [renderValue]
    exact .pure (Doc.balanced_text.2 (by decide))
  | .literal content =>
    rw [renderValue]
    exact .pure (Doc.balanced_text.2 (balanced_literalText (balanced_of_leaf hv)))
  | .column name =>
    rw [renderValue]
    exact .pure (balanced_of_leaf hv)
  | .call name arguments =>
    rw [renderValue]
    obtain ⟨hname, harguments⟩ := List.forall_mem_cons.1 hv
    exact (balanced_renderValues hctx harguments).bind fun texts htexts =>
      (ensures_ok _).bind fun call hcall =>
      .pure (Doc.balanced_text.2 (balanced_callText (Doc.balanced_text.1 hname) htexts hcall))
  | .choice arms otherwise =>
    rw [renderValue]
    obtain ⟨harms, hotherwise⟩ := List.forall_mem_append.1 hv
    exact (balanced_renderArms hctx harms).bind fun cases hcases =>
      (balanced_renderOtherwise hctx hotherwise).bind fun last hlast =>
      .pure (Doc.balanced_text.2 ((((by decide : Text.Balanced "CASE ").append
        (Text.Balanced.join (by decide) hcases)).append hlast).append (by decide)))
  | .condition c =>
    rw [renderValue]
    exact (balanced_renderCondition hctx hv).bind fun text htext => .pure (Doc.balanced_text.2 htext)
  | .semantic table column term =>
    rw [renderValue]
    refine (Vector.balanced_search hctx.store table column term operator (.int 1)).bind fun r hr =>
      .pure (Doc.balanced_text.2 ?_)
    have hterm : Text.Balanced ("'" ++ term.display ++ "'") :=
      ((by decide : Text.Balanced "'").append
        (Doc.Balanced.display (balanced_of_leaf hv))).append (by decide)
    obtain ⟨found?, confidence⟩ := r
    cases found? with
    | none => exact hterm
    | some found => exact hr found rfl
  | .subquery task =>
    rw [renderValue]
    exact (hctx.subquery task).bind fun text htext => .pure (Doc.balanced_text.2 htext.wrap)
  | .faulty fault =>
    rw [renderValue]
    exact .throw fault

theorem balanced_renderValues (hctx : ctx.Balanced) {vs : List Value}
    (hvs : AllLeaves Leaf.Balanced (Value.leavesOfAll vs)) :
    Ensures (renderValues ctx vs) fun ds => ∀ d ∈ ds, d.Balanced := by
  match vs with
  | [] =>
    rw [renderValues]
    exact .pure nofun
  | v :: rest =>
    rw [renderValues]
    obtain ⟨hv, hrest⟩ := List.forall_mem_append.1 hvs
    exact (balanced_renderValue hctx hv).bind fun d hd =>
      (balanced_renderValues hctx hrest).bind fun ds hds =>
      .pure (List.forall_mem_cons.2 ⟨hd, hds⟩)

theorem balanced_renderArms (hctx : ctx.Balanced) {arms : List Arm}
    (harms : AllLeaves Leaf.Balanced (Arm.leavesOfAll arms)) :
    Ensures (renderArms ctx arms) fun texts => ∀ s ∈ texts, Text.Balanced s := by
  match arms with
  | [] =>
    rw [renderArms]
    exact .pure nofun
  | .mk test result :: rest =>
    rw [renderArms]
    obtain ⟨htest, hbehind⟩ := List.forall_mem_append.1 harms
    obtain ⟨hresult, hrest⟩ := List.forall_mem_append.1 hbehind
    exact (balanced_renderValue hctx htest).bind fun test htest =>
      (balanced_renderValue hctx hresult).bind fun result hresult =>
      (balanced_renderArms hctx hrest).bind fun texts htexts =>
      .pure (List.forall_mem_cons.2 ⟨(((by decide : Text.Balanced "WHEN ").append
        htest.display).append (by decide)).append hresult.display, htexts⟩)

theorem balanced_renderOtherwise (hctx : ctx.Balanced) {otherwise : Option Value}
    (hotherwise : AllLeaves Leaf.Balanced (Value.leavesOfOption otherwise)) :
    Ensures (renderOtherwise ctx otherwise) Text.Balanced := by
  match otherwise with
  | none =>
    rw [renderOtherwise]
    exact .pure (by decide)
  | some v =>
    rw [renderOtherwise]
    exact (balanced_renderValue hctx hotherwise).bind fun d hd =>
      .pure ((by decide : Text.Balanced " ELSE ").append hd.display)

theorem balanced_renderCondition (hctx : ctx.Balanced) {c : Condition}
    (hc : AllLeaves Leaf.Balanced c.leaves) :
    Ensures (renderCondition ctx c) Text.Balanced := by
  match c with
  | .group connective parts =>
    rw [renderCondition]
    obtain ⟨hconnective, hparts⟩ := List.forall_mem_cons.1 hc
    have hseparator : Text.Balanced (" " ++ connective.display ++ " ") :=
      ((by decide : Text.Balanced " ").append (Doc.Balanced.display hconnective)).append (by decide)
    exact (balanced_renderConditions hctx hparts).bind fun texts htexts =>
      .pure (hseparator.join htexts).wrap
  | .compare operator left right =>
    rw [renderCondition]
    obtain ⟨hoperator, hsides⟩ := List.forall_mem_cons.1 hc
    obtain ⟨hleft, hright⟩ := List.forall_mem_append.1 hsides
    exact (balanced_renderValue hctx hleft).bind fun left hleft =>
      (balanced_renderValue hctx hright).bind fun right hright =>
      .pure (balanced_compareText hoperator hleft hright)
  | .faulty fault =>
    rw [renderCondition]
    exact .throw fault

theorem balanced_renderConditions (hctx : ctx.Balanced) {cs : List Condition}
    (hcs : AllLeaves Leaf.Balanced (Condition.leavesOfAll cs)) :
    Ensures (renderConditions ctx cs) fun texts => ∀ s ∈ texts, Text.Balanced s := by
  match cs with
  | [] =>
    rw [renderConditions]
    exact .pure nofun
  | c :: rest =>
    rw [renderConditions]
    obtain ⟨hc, hrest⟩ := List.forall_mem_append.1 hcs
    exact (balanced_renderCondition hctx hc).bind fun text htext =>
      (balanced_renderConditions hctx hrest).bind fun texts htexts =>
      .pure (List.forall_mem_cons.2 ⟨htext, htexts⟩)

end

/-! ## Clauses -/

theorem balanced_of_part {α : Type} {document : α → Doc} {part : Part α} {a : α}
    (h : AllLeaves Leaf.Balanced (leavesOfPart (fun a => [.shown (document a)]) part))
    (hpart : part = .ok a) : (document a).Balanced := by
  rw [hpart] at h
  exact balanced_of_leaf h

theorem balanced_renderOutput (hctx : ctx.Balanced) {item : Output}
    (hitem : AllLeaves Leaf.Balanced item.leaves) :
    Ensures (renderOutput ctx item) Doc.Balanced := by
  obtain ⟨hvalue, hlabel⟩ := List.forall_mem_append.1 hitem
  refine (balanced_renderValue hctx hvalue).bind fun d hd => .pure ?_
  revert hlabel
  cases item.label with
  | none => exact fun _ => hd
  | some name =>
    exact fun hlabel => Doc.balanced_text.2 ((hd.display.append (by decide)).append
      (Doc.balanced_text.1 (balanced_of_leaf hlabel)))

theorem balanced_renderTarget (hctx : ctx.Balanced) {distinct : Part Bool} {target : Target}
    (htarget : AllLeaves Leaf.Balanced target.leaves) :
    Ensures (renderTarget ctx distinct target) Text.Balanced := by
  refine (Ensures.true _).bind fun distinct _ => ?_
  cases target with
  | all => exact .pure (by decide)
  | outputs items =>
    refine (ensures_ok items).bind fun outputs houtputs => ?_
    have hleaves := List.forall_mem_flatMap.1 (allLeaves_of_part htarget houtputs)
    refine (Ensures.forall_mem fun item hitem =>
      balanced_renderOutput hctx (hleaves item hitem)).bind fun columns hcolumns =>
      (ensures_ok _).bind fun list hlist => .pure ?_
    have hselect :
        Text.Balanced (Text.ofString (if distinct then "SELECT DISTINCT " else "SELECT ")) := by
      cases distinct <;> decide
    exact hselect.append (balanced_joined (by decide) hcolumns hlist)

theorem balanced_renderJoin (hctx : ctx.Balanced) {j : Join} (hj : AllLeaves Leaf.Balanced j.leaves) :
    Ensures (renderJoin ctx j) Text.Balanced := by
  obtain ⟨hnames, hon⟩ := List.forall_mem_append.1 hj
  obtain ⟨hkind, htable⟩ := List.forall_mem_append.1 hnames
  refine (ensures_ok j.table).bind fun table htable' =>
    (balanced_renderCondition hctx hon).bind fun condition hcondition =>
    (ensures_ok j.kind).bind fun kind hkind' => .pure ?_
  have hkind : kind.Balanced := balanced_of_part hkind hkind'
  have htable : table.Balanced := balanced_of_part htable htable'
  have htext := ((hkind.display.append (t := " ") (by decide)).append htable.display).append (t := " ON ")
    (by decide)
  exact htext.append hcondition

theorem balanced_renderFilter (hctx : ctx.Balanced) {keyword : Text}
    (hkeyword : Text.Balanced keyword) {c : Option Condition}
    (hc : AllLeaves Leaf.Balanced (leavesOfOption Condition.leaves c)) :
    Ensures (renderFilter ctx keyword c) Text.Balanced := by
  cases c with
  | none => exact .pure (by decide)
  | some c =>
    exact (balanced_renderCondition hctx hc).bind fun text htext =>
      .pure ((hkeyword.append (by decide)).append htext)

theorem balanced_renderOrder (hctx : ctx.Balanced) {keys : Option (Part (List SortKey))}
    (hkeys : AllLeaves Leaf.Balanced
      (leavesOfOption (leavesOfPart (·.flatMap SortKey.leaves)) keys)) :
    Ensures (renderOrder ctx keys) Text.Balanced := by
  cases keys with
  | none => exact .pure (by decide)
  | some keys =>
    refine (ensures_ok keys).bind fun items hitems => ?_
    have hleaves := List.forall_mem_flatMap.1 (allLeaves_of_part hkeys hitems)
    refine (Ensures.forall_mem (Q := Text.Balanced) fun key hkey => ?_).bind fun texts htexts =>
      .pure ((by decide : Text.Balanced "ORDER BY ").append (Text.Balanced.join (by decide) htexts))
    obtain ⟨hdirection, hvalue⟩ := List.forall_mem_cons.1 (hleaves key hkey)
    exact (balanced_renderValue hctx hvalue).bind fun d hd =>
      .pure ((hd.display.append (by decide)).append (Doc.balanced_text.1 hdirection))

theorem balanced_renderSetOperations (hctx : ctx.Balanced) {sql : Text} (hsql : Text.Balanced sql)
    {operations : List SetOperation}
    (hoperations : ∀ s ∈ operations, AllLeaves Leaf.Balanced s.leaves) :
    Ensures (renderSetOperations ctx sql operations) Text.Balanced := by
  induction operations generalizing sql with
  | nil => exact .pure hsql
  | cons s rest ih =>
    obtain ⟨hs, hrest⟩ := List.forall_mem_cons.1 hoperations
    have hoperator : s.operator.Balanced := (List.forall_mem_cons.1 hs).1
    refine (ensures_ok s.task).bind fun task _ =>
      (hctx.subquery task).bind fun other hother => ih ?_ hrest
    have hfirst : Text.Balanced ("(" ++ sql ++ ") \n") := hsql.between (by decide) (by decide)
    have hsecond : Text.Balanced (" \n(" ++ other ++ ")") := hother.between (by decide) (by decide)
    have hboth := (hfirst.append hoperator.display).append hsecond
    rwa [← List.append_assoc, ← List.append_assoc] at hboth

/-- The text of a task is balanced if what it shows and what the tasks that it calls for give is. -/
theorem balanced_renderTask (hctx : ctx.Balanced) {task : Task}
    (htask : AllLeaves Leaf.Balanced task.leaves) :
    Ensures (renderTask ctx task) Text.Balanced := by
  unfold Task.leaves at htask
  simp only [AllLeaves, List.forall_mem_append] at htask
  obtain ⟨⟨⟨⟨⟨⟨⟨⟨hlinks, -⟩, htarget⟩, htable⟩, hfilter⟩, hgrouping⟩, hhaving⟩, horder⟩, hlimit⟩ :=
    htask
  have hfrom : Ensures (renderFrom task.table) Text.Balanced := by
    cases htask : task.table with
    | none => exact .pure (by decide)
    | some table =>
      rw [htask] at htable
      exact (ensures_ok table).bind fun d hd => .pure ((by decide : Text.Balanced "FROM ").append
        (balanced_of_part htable hd).display)
  have hgroup : Ensures (renderGrouping task.grouping) Text.Balanced := by
    cases htask : task.grouping with
    | none => exact .pure (by decide)
    | some columns =>
      rw [htask] at hgrouping
      exact (ensures_ok columns).bind fun s hs => .pure ((by decide : Text.Balanced "GROUP BY ").append
        (Doc.balanced_text.1 (balanced_of_part hgrouping hs)))
  refine (ensures_ok task.links).bind fun links hparts => ?_
  have hlinks := allLeaves_of_part hlinks hparts
  refine (balanced_renderTarget hctx htarget).bind fun select hselect =>
    hfrom.bind fun source hsource =>
    ((Ensures.forall_mem fun j hj => balanced_renderJoin hctx (allLeaves_joins hlinks j hj)).bind
      fun texts htexts => .pure (Text.Balanced.join (by decide) htexts)).bind fun joins hjoins =>
    (balanced_renderFilter hctx (by decide) hfilter).bind fun filter hfilter =>
    hgroup.bind fun grouping hgrouping =>
    (balanced_renderFilter hctx (by decide) hhaving).bind fun having hhaving =>
    (balanced_renderOrder hctx horder).bind fun order horder =>
    balanced_renderSetOperations hctx (Text.Balanced.join (by decide) fun s hs => ?_)
      (allLeaves_setOperations hlinks)
  -- empty clauses are dropped, and each of those that stay is balanced
  refine List.forall_mem_cons.2 ⟨hselect, ?_⟩ s (List.mem_filter.1 hs).1
  simp only [List.forall_mem_cons]
  refine ⟨hsource, hjoins, hfilter, hgrouping, hhaving, horder, ?_, nofun⟩
  revert hlimit
  cases task.limit with
  | none => exact fun _ => by decide
  | some n =>
    exact fun hlimit => (by decide : Text.Balanced "LIMIT ").append (balanced_of_leaf hlimit).display

end

/-! ## Tasks by id -/

theorem balanced_missingTask {id : Doc} {number : Int} (h : id.toInt = .ok number) :
    Text.Balanced (missingTask id) :=
  ((by decide : Text.Balanced "-- Error: Task ").append
    (Text.balanced_of_parens (Text.parens_of_unmarked (Doc.unmarked_of_toInt h)))).append (by decide)

theorem balanced_compileTask {plan : Plan} {store : Vector.Store}
    (htasks : ∀ number task, plan.find? number = some task → AllLeaves Leaf.Balanced task.leaves)
    (hstore : store.Balanced) (depth : Nat) (id : Doc) :
    Ensures (compileTask plan store depth id) Text.Balanced := by
  induction depth generalizing id with
  | zero =>
    rw [compileTask_eq]
    refine (ensures_ok _).bind fun number hnumber => ?_
    cases plan.find? number with
    | none => exact .pure (balanced_missingTask hnumber)
    | some task => exact .throw .circular
  | succ depth ih =>
    rw [compileTask_eq]
    refine (ensures_ok _).bind fun number hnumber => ?_
    cases htask : plan.find? number with
    | none => exact .pure (balanced_missingTask hnumber)
    | some task => exact balanced_renderTask ⟨hstore, ih⟩ (htasks number task htask)

/-- Every statement of a plan is balanced if all texts of the plan and of what is found for it are:
that of the whole plan, and that of a task with any id, however deep tasks are entered. -/
theorem statements_balanced {d : Doc} {plan : Plan} {store : Vector.Store} (hd : d.Balanced)
    (hstore : store.Balanced) (hplan : Plan.ofDoc d = .ok plan) :
    (∀ order sql, Produces (plan.compile order store) sql → Text.Balanced sql) ∧
    ∀ depth id sql, Produces (compileTask plan store depth id) sql → Text.Balanced sql := by
  have htask (depth : Nat) (id : Doc) : Ensures (compileTask plan store depth id) Text.Balanced :=
    balanced_compileTask (fun _ _ => inherits_balanced.leaves_find? hd hplan) hstore depth id
  have hcompile (order : SetOrder) : Ensures (plan.compile order store) Text.Balanced := by
    unfold compile
    split
    · exact .pure (by decide)
    · exact (Ensures.true _).bind fun root _ => htask _ root
  refine ⟨?_, ?_⟩
  · rintro order sql ⟨console, console', hrun⟩
    exact hcompile order console sql console' hrun
  · rintro depth id sql ⟨console, console', hrun⟩
    exact htask depth id console sql console' hrun

/-- A plan of two tasks, where the second one puts the first one in twice. -/
def nestedPlan : Doc :=
  .record [("tasks", .list [.record nestedPart, .record nestedWhole])]
where
  nestedPart : List (Text × Doc) :=
    [("task_id", .int 1),
      ("target", .list [.record [("value", .record [("type", .text "FUNCTION"), ("name", .text "f(x)"),
        ("params", .list [.record [("type", .text "LITERAL"), ("value", .text "(a)")]])])]]),
      ("main_table", .text "loan (x)"),
      ("where_clause", .record [("operator", .text "="),
        ("left", .record [("type", .text "COLUMN"), ("value", .text "status")]),
        ("right", .record [("type", .text "SEMANTIC"), ("table", .text "loan"),
          ("column", .text "status"), ("value", .text "paid")])])]
  nestedWhole : List (Text × Doc) :=
    [("task_id", .int 2),
      ("target", .list [.record [("value",
        .record [("type", .text "SUBQUERY"), ("target_task_id", .int 1)])]]),
      ("structural_logic", .list [.record [("type", .text "UNION"), ("target_task_id", .int 1)]])]

/-- A store that finds one value for every term. -/
def nestedStore : Vector.Store :=
  ⟨[("loan_status", .answering [("*", [⟨.record [("db_value", .text "paid (late)")], .int 0⟩])])]⟩

def nestedStatement : Text :=
  "(SELECT (SELECT F(X)((a))\nFROM \"loan\" (x)\nWHERE (status = 'paid (late)'))\n ) \nUNION \n" ++
    "(SELECT F(X)((a))\nFROM \"loan\" (x)\nWHERE (status = 'paid (late)'))"

theorem statements_balanced_nested : ∃ plan, Plan.ofDoc nestedPlan = .ok plan ∧
    Produces (plan.compile .given nestedStore) nestedStatement ∧ Text.Balanced nestedStatement := by
  have hplan : Plan.ofDoc nestedPlan =
      .ok ⟨[(.int 1, nestedPlan.nestedPart), (.int 2, nestedPlan.nestedWhole)]⟩ := rfl
  have hstore : nestedStore.Balanced := Vector.Store.balanced_of_hits (by
    rintro c hc known hknown
    obtain rfl := List.mem_singleton.1 hc
    cases hknown
    decide)
  have hrun : (runIn (compile ⟨[(.int 1, nestedPlan.nestedPart), (.int 2, nestedPlan.nestedWhole)]⟩
      .given nestedStore) "").1.toOption = some nestedStatement := by decide +kernel
  have hproduces : Produces (compile ⟨[(.int 1, nestedPlan.nestedPart),
      (.int 2, nestedPlan.nestedWhole)]⟩ .given nestedStore) nestedStatement :=
    produces_of_run (ok_of_toOption hrun)
  exact ⟨_, hplan, hproduces,
    (statements_balanced (by decide +kernel) hstore hplan).1 .given nestedStatement hproduces⟩

end Plan

end QueryBench
