import QueryBench.Proofs.Console
import QueryBench.Proofs.Doc.Same
import QueryBench.Vector.Search

/-!
# What a search takes

A search never stops with a fault: an answer that cannot be used is reported and counts as nothing
found. Of any other answer it takes the first value, and under an operator that takes a list those of
high confidence that were not taken before.

Main definitions: `Hit.Offers`, `Further`, `Selects`. Main statement: `Vector.search_selects`.
-/
set_option autoImplicit false

namespace QueryBench.Vector

/-- An entry has the confidence and the stored value of a candidate. -/
def Hit.Offers (hit : Hit) (c : Candidate) : Prop :=
  Vector.confidence hit.distance = .ok c.confidence ∧ hit.info.field "db_value" = .ok c.value

theorem candidate_eq_ok {hit : Hit} {c : Candidate} : hit.candidate = .ok c ↔ hit.Offers c := by
  unfold Hit.candidate
  constructor
  · intro h
    obtain ⟨score, hscore, h⟩ := ok_of_bind h
    obtain ⟨value, hvalue, h⟩ := ok_of_bind h
    cases h
    exact ⟨hscore, hvalue⟩
  · rintro ⟨hscore, hvalue⟩
    rw [hscore, ok_bind, hvalue, ok_bind]
    rfl

/-! ## Further values -/

/-- A candidate whose value is taken, if it is not there yet. -/
def Candidate.Confident (c : Candidate) : Prop :=
  c.confidence > 0.7

/-- The values `more` that are taken of candidates when those of `taken` are there. -/
inductive Further : List Doc → List Candidate → List Doc → Prop where
  | nil (taken : List Doc) : Further taken [] []
  | take {taken more : List Doc} {c : Candidate} {rest : List Candidate} (hc : c.Confident)
      (hnew : ∀ a ∈ taken, c.value.same a = false) (hmore : Further (taken ++ [c.value]) rest more) :
      Further taken (c :: rest) (c.value :: more)
  | pass {taken more : List Doc} {c : Candidate} {rest : List Candidate}
      (h : c.Confident → ∃ a ∈ taken, c.value.same a = true) (hmore : Further taken rest more) :
      Further taken (c :: rest) more

theorem further_acceptFurther (taken : List Doc) (rest : List Candidate) :
    ∃ more, acceptFurther taken rest = taken ++ more ∧ Further taken rest more := by
  fun_induction acceptFurther taken rest with
  | case1 taken => exact ⟨[], (List.append_nil taken).symm, .nil taken⟩
  | case2 taken c rest h ih =>
    obtain ⟨more, hmore, hfurther⟩ := ih
    simp only [Bool.and_eq_true, decide_eq_true_eq, Bool.not_eq_true', List.any_eq_false,
      Bool.not_eq_true] at h
    rw [List.append_assoc] at hmore
    exact ⟨c.value :: more, hmore, .take h.1 h.2 hfurther⟩
  | case3 taken c rest h ih =>
    obtain ⟨more, hmore, hfurther⟩ := ih
    refine ⟨more, hmore, .pass (fun hc => ?_) hfurther⟩
    simp only [Bool.and_eq_true, decide_eq_true_eq, Bool.not_eq_true', not_and,
      Bool.not_eq_false, List.any_eq_true] at h
    exact h hc

namespace Further
variable {taken more : List Doc} {rest : List Candidate}

theorem sublist (h : Further taken rest more) : more.Sublist (rest.map Candidate.value) := by
  induction h with
  | nil => exact .slnil
  | take _ _ _ ih => exact ih.cons_cons _
  | pass _ _ ih => exact ih.cons _

/-- A value that is taken is not the same as one that was there. -/
theorem pairwise (h : Further taken rest more)
    (htaken : taken.Pairwise fun a b => b.same a = false) :
    (taken ++ more).Pairwise fun a b => b.same a = false := by
  induction h with
  | nil taken => rwa [List.append_nil]
  | @take taken more c rest _ hnew _ ih =>
    have hboth : (taken ++ [c.value]).Pairwise fun a b => b.same a = false :=
      List.pairwise_append.2 ⟨htaken, List.pairwise_singleton _ _, fun a ha b hb =>
        List.mem_singleton.1 hb ▸ hnew a ha⟩
    have hall := ih hboth
    rwa [List.append_assoc] at hall
  | pass _ _ ih => exact ih htaken

theorem backed (h : Further taken rest more) :
    ∀ v ∈ more, ∃ c ∈ rest, c.Confident ∧ c.value = v := by
  induction h with
  | nil => simp
  | @take _ _ c rest hc _ _ ih =>
    refine List.forall_mem_cons.2 ⟨⟨c, List.mem_cons_self, hc, rfl⟩, fun v hv => ?_⟩
    obtain ⟨c', hc', hbacked⟩ := ih v hv
    exact ⟨c', List.mem_cons_of_mem c hc', hbacked⟩
  | @pass _ _ c rest _ _ ih =>
    intro v hv
    obtain ⟨c', hc', hbacked⟩ := ih v hv
    exact ⟨c', List.mem_cons_of_mem c hc', hbacked⟩

/-- The value of every confident candidate is taken, or one that is the same. -/
theorem complete (h : Further taken rest more) :
    ∀ c ∈ rest, c.Confident → ∃ v ∈ taken ++ more, v = c.value ∨ c.value.same v = true := by
  induction h with
  | nil => simp
  | @take taken more c rest _ _ _ ih =>
    refine List.forall_mem_cons.2 ⟨fun _ => ⟨c.value, by simp, .inl rfl⟩, fun c' hc' hconfident => ?_⟩
    obtain ⟨v, hv, hsame⟩ := ih c' hc' hconfident
    exact ⟨v, by simpa using hv, hsame⟩
  | @pass taken more c rest h _ ih =>
    refine List.forall_mem_cons.2 ⟨fun hconfident => ?_, ih⟩
    obtain ⟨a, ha, hsame⟩ := h hconfident
    exact ⟨a, List.mem_append_left more ha, .inr hsame⟩

end Further

/-! ## Selections -/

/-- The values to take of candidates under an operator. -/
structure Selects (operator : Doc) (first : Candidate) (rest : List Candidate) (values : List Doc) :
    Prop where
  head : values.head? = some first.value
  sublist : values.Sublist ((first :: rest).map Candidate.value)
  distinct : values.Pairwise fun a b => b.same a = false ∧ (a.UniqueKeys → a.same b = false)
  single : operator ≠ .text "IN" → operator ≠ .text "NOT IN" → values.length = 1
  complete : operator = .text "IN" ∨ operator = .text "NOT IN" →
    ∀ c ∈ rest, c.confidence > 0.7 → ∃ v ∈ values, v = c.value ∨ c.value.same v = true
  backed : ∀ v ∈ values.tail, ∃ c ∈ rest, c.confidence > 0.7 ∧ c.value = v

theorem takesList_iff {operator : Doc} :
    takesList operator = true ↔ operator = .text "IN" ∨ operator = .text "NOT IN" := by
  cases operator with
  | text s => simp [takesList, Doc.isOneOf, Doc.isText]
  | _ => simp [takesList, Doc.isOneOf, Doc.isText]

theorem distinct_of_pairwise {values : List Doc}
    (h : values.Pairwise fun a b => b.same a = false) :
    values.Pairwise fun a b => b.same a = false ∧ (a.UniqueKeys → a.same b = false) := by
  refine h.imp fun {a b} hba => ⟨hba, fun hkeys => ?_⟩
  refine Bool.eq_false_iff.2 fun hab => ?_
  rw [Doc.same_symm hkeys hab] at hba
  cases hba

theorem selects_accepted (operator : Doc) (first : Candidate) (rest : List Candidate) :
    Selects operator first rest (accepted operator (first :: rest)) := by
  by_cases htakes : takesList operator = true
  · obtain ⟨more, hmore, hfurther⟩ := further_acceptFurther [first.value] rest
    have hvalues : accepted operator (first :: rest) = first.value :: more := by
      rw [accepted, if_pos htakes, hmore]
      rfl
    rw [hvalues]
    exact {
      head := rfl
      sublist := hfurther.sublist.cons_cons _
      distinct := distinct_of_pairwise (hfurther.pairwise (List.pairwise_singleton _ _))
      single := fun hin hnotIn => absurd (takesList_iff.1 htakes) (by simp [hin, hnotIn])
      complete := fun _ => hfurther.complete
      backed := hfurther.backed }
  · have hvalues : accepted operator (first :: rest) = [first.value] := by
      rw [accepted, if_neg htakes]
    rw [hvalues]
    exact {
      head := rfl
      sublist := (List.nil_sublist _).cons_cons _
      distinct := List.pairwise_singleton _ _
      single := fun _ _ => rfl
      complete := fun h => absurd (takesList_iff.2 h) htakes
      backed := by simp }

/-! ## Searches -/

section
variable {store : Store} {table column query count : Doc} {hits : List Hit} {first : Candidate}
  {rest : List Candidate}
  (hquery : store.query (collectionName table column) query count = .ok hits)
  (hoffers : List.Forall₂ Hit.Offers hits (first :: rest))
include hquery hoffers

/-- An answer that can be used is used without a word. -/
theorem search_of_offers (operator : Doc) :
    search store table column query operator count =
      pure (some (Text.join ", " ((accepted operator (first :: rest)).map valueText)),
        first.confidence) := by
  have hcandidates : hits.mapM Hit.candidate = .ok (first :: rest) :=
    mapM_eq_ok_iff.2 (hoffers.imp fun _ _ h => candidate_eq_ok.2 h)
  rw [search, hquery, ok_bind, select, hcandidates, ok_bind]
  rfl

end

theorem yields_search_nothing {store : Store} {table column query count : Doc}
    (h : ∀ hits, store.query (collectionName table column) query count = .ok hits →
      ∀ first rest, ¬ List.Forall₂ Hit.Offers hits (first :: rest)) (operator : Doc) :
    Yields (search store table column query operator count) (.ok (none, 0.0)) := by
  unfold search
  cases hr : store.query (collectionName table column) query count >>= select operator with
  | error fault => exact (Yields.say _).bind_ok (.pure _)
  | ok r =>
    obtain ⟨hits, hquery, hselect⟩ := ok_of_bind hr
    obtain ⟨candidates, hcandidates, hselect⟩ := ok_of_bind hselect
    cases candidates with
    | nil =>
      cases hselect
      exact .pure _
    | cons first rest =>
      have hoffers := (mapM_eq_ok_iff.1 hcandidates).imp fun _ _ hc => candidate_eq_ok.1 hc
      exact absurd hoffers (h hits hquery first rest)

theorem search_found {store : Store} {table column query operator count : Doc}
    {console console' found : Text} {c : Float}
    (h : runIn (search store table column query operator count) console =
      (.ok (some found, c), console')) :
    ∃ first rest, found = Text.join ", " ((accepted operator (first :: rest)).map valueText) := by
  by_cases hnone : ∀ hits, store.query (collectionName table column) query count = .ok hits →
      ∀ first rest, ¬ List.Forall₂ Hit.Offers hits (first :: rest)
  · have hnothing := yields_search_nothing hnone operator console
    rw [h] at hnothing
    cases hnothing
  · push Not at hnone
    obtain ⟨hits, hquery, first, rest, hoffers⟩ := hnone
    rw [search_of_offers hquery hoffers operator] at h
    cases h
    exact ⟨first, rest, rfl⟩

end QueryBench.Vector
