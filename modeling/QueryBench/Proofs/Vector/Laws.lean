import QueryBench.Proofs.Outcome
import QueryBench.Vector.Backend

/-!
# The laws of backends

How a backend keeps its collections is not known, nor what it refuses. All that is relied on is what
a call does to the collections when it is carried out, and on what it depends whether it is.

Main definitions: `Backend.contents`, all that a backend shows, and `Backend.Lawful`. Main statement:
`Contents.lawful_backend`, by which plain lists obey the laws.
-/
set_option autoImplicit false

namespace QueryBench.Vector

/-- The names that are listed after a call, which puts a new one last. -/
def StoreCall.listing (names : List Text) : StoreCall → List Text
  | .delete name => names.filter (· ≠ name)
  | .create name => names ++ [name]
  | .add _ _ => names

/-- The laws of a backend. -/
structure Backend.Lawful {σ : Type} (b : Backend σ) : Prop where
  /-- Of the other collections a deletion leaves the items alone. -/
  delete : ∀ {name s s'}, b.answer (.delete name) s = (.ok (), s') →
    ∀ other, other ≠ name → b.items s' other = b.items s other
  /-- A collection is made under a name that is free, and is empty. -/
  create : ∀ {name s s'}, b.answer (.create name) s = (.ok (), s') →
    name ∉ b.names s ∧ b.items s' name = [] ∧ ∀ other, other ≠ name → b.items s' other = b.items s other
  /-- A collection that is empty then holds the items of the batch. -/
  add : ∀ {name batch s s'}, b.answer (.add name batch) s = (.ok (), s') → b.items s name = [] →
    b.items s' name = batch.items ∧ ∀ other, other ≠ name → b.items s' other = b.items s other
  /-- The collections are listed in the order in which they were made. -/
  listing : ∀ {call s s'}, b.answer call s = (.ok (), s') → b.names s' = call.listing (b.names s)
  /-- A call that is refused changes nothing. -/
  refused : ∀ {call s fault s'}, b.answer call s = (.error fault, s') →
    b.names s' = b.names s ∧ b.items s' = b.items s
  /-- A collection can be deleted exactly if it is there. -/
  deletable : ∀ name s, (b.answer (.delete name) s).1.isOk = true ↔ name ∈ b.names s
  /-- Whether a collection can be made under a free name depends on the name alone. -/
  creatable : ∀ {name s t}, name ∉ b.names s → name ∉ b.names t →
    (b.answer (.create name) s).1.isOk = (b.answer (.create name) t).1.isOk
  /-- Whether a batch can be added to an empty collection depends on its name and the batch alone. -/
  addable : ∀ {name batch s t}, name ∈ b.names s → b.items s name = [] → name ∈ b.names t →
    b.items t name = [] →
      (b.answer (.add name batch) s).1.isOk = (b.answer (.add name batch) t).1.isOk

/-- All that a backend shows: its collections as they are listed, each with its items. -/
def Backend.contents {σ : Type} (b : Backend σ) (s : σ) : Contents :=
  (b.names s).map fun name => (name, b.items s name)

section
variable {σ : Type} {b : Backend σ} {s s' : σ} {name : Text}

theorem Backend.fst_contents (b : Backend σ) (s : σ) : (b.contents s).map Prod.fst = b.names s := by
  rw [Backend.contents, List.map_map]
  exact List.map_id _

theorem Backend.mem_contents {items : List Item} :
    (name, items) ∈ b.contents s ↔ name ∈ b.names s ∧ b.items s name = items := by
  rw [Backend.contents, List.mem_map]
  constructor
  · rintro ⟨n, hn, heq⟩
    obtain ⟨rfl, rfl⟩ := Prod.ext_iff.1 heq
    exact ⟨hn, rfl⟩
  · rintro ⟨hname, rfl⟩
    exact ⟨name, hname, rfl⟩

namespace Backend.Lawful
variable (laws : b.Lawful)
include laws

theorem contents_refused {call : StoreCall} {fault : Fault} (h : b.answer call s = (.error fault, s')) :
    b.contents s' = b.contents s := by
  obtain ⟨hnames, hitems⟩ := laws.refused h
  rw [Backend.contents, Backend.contents, hnames, hitems]

theorem contents_delete (h : b.answer (.delete name) s = (.ok (), s')) :
    b.contents s' = (b.contents s).filter (·.1 ≠ name) := by
  rw [Backend.contents, Backend.contents, laws.listing h, StoreCall.listing, List.filter_map]
  refine List.map_congr_left fun other hother => ?_
  have hne : other ≠ name := by simpa using (List.mem_filter.1 hother).2
  rw [laws.delete h other hne]

theorem contents_create (h : b.answer (.create name) s = (.ok (), s')) :
    b.contents s' = b.contents s ++ [(name, [])] := by
  obtain ⟨hfree, hitems, hothers⟩ := laws.create h
  rw [Backend.contents, Backend.contents, laws.listing h, StoreCall.listing, List.map_append,
    List.map_singleton, hitems]
  congr 1
  refine List.map_congr_left fun other hother => ?_
  rw [hothers other fun heq => hfree (heq ▸ hother)]

theorem contents_add {batch : Batch} (h : b.answer (.add name batch) s = (.ok (), s'))
    (hempty : b.items s name = []) : b.contents s' = (b.contents s).extend name batch.items := by
  obtain ⟨hitems, hothers⟩ := laws.add h hempty
  rw [Backend.contents, Backend.contents, laws.listing h, StoreCall.listing, Contents.extend,
    List.map_map]
  refine List.map_congr_left fun other _ => ?_
  by_cases hother : other = name
  · subst hother
    rw [Function.comp_apply, if_pos rfl, hitems, hempty, List.nil_append]
  · rw [Function.comp_apply, if_neg hother, hothers other hother]

end Backend.Lawful

end

/-! ## Plain lists -/

namespace Contents

theorem hasName_iff {contents : Contents} {name : Text} :
    contents.hasName name = true ↔ name ∈ contents.map Prod.fst := by
  simp [hasName, List.any_eq_true]

theorem lookup_filter {p : Text × List Item → Bool} {name : Text} (h : ∀ items, p (name, items) = true)
    (contents : Contents) : (contents.filter p).lookup name = contents.lookup name := by
  induction contents with
  | nil => rfl
  | cons c contents ih =>
    by_cases hc : p c = true
    · rw [List.filter_cons_of_pos hc, List.lookup_cons, List.lookup_cons, ih]
    · have hother : (name == c.1) = false := by
        refine beq_false_of_ne ?_
        rintro rfl
        exact hc (h c.2)
      rw [List.filter_cons_of_neg hc, ih, List.lookup_cons, hother]

theorem lookup_eq_none_of_not_mem {contents : Contents} {name : Text}
    (h : name ∉ contents.map Prod.fst) : contents.lookup name = none := by
  rw [List.lookup_eq_none_iff]
  intro c hc
  have hne : name ≠ c.1 := fun heq => h (heq ▸ List.mem_map_of_mem hc)
  simpa using hne

theorem fst_extend (contents : Contents) (name : Text) (items : List Item) :
    (contents.extend name items).map Prod.fst = contents.map Prod.fst := by
  rw [extend, List.map_map]
  refine List.map_congr_left fun c _ => ?_
  by_cases hc : c.1 = name
  · rw [Function.comp_apply, if_pos hc]
  · rw [Function.comp_apply, if_neg hc]

theorem lookup_extend_self {contents : Contents} {name : Text} (h : name ∈ contents.map Prod.fst)
    (items : List Item) :
    ((contents.extend name items).lookup name).getD [] = (contents.lookup name).getD [] ++ items := by
  induction contents with
  | nil => cases h
  | cons c contents ih =>
    rw [extend, List.map_cons]
    by_cases hc : c.1 = name
    · subst hc
      rw [if_pos rfl, List.lookup_cons_self, List.lookup_cons_self]
      rfl
    · have hother : (name == c.1) = false := beq_false_of_ne (Ne.symm hc)
      rw [if_neg hc, List.lookup_cons, hother, List.lookup_cons, hother]
      exact ih ((List.mem_cons.1 h).resolve_left (Ne.symm hc))

theorem lookup_extend_of_ne {name other : Text} (h : other ≠ name) (contents : Contents)
    (items : List Item) : (contents.extend name items).lookup other = contents.lookup other := by
  induction contents with
  | nil => rfl
  | cons c contents ih =>
    rw [extend] at ih ⊢
    rw [List.map_cons]
    by_cases hc : c.1 = name
    · have hother : (other == c.1) = false := beq_false_of_ne fun heq => h (heq.trans hc)
      rw [if_pos hc, List.lookup_cons, hother, List.lookup_cons, hother]
      exact ih
    · rw [if_neg hc, List.lookup_cons, List.lookup_cons, ih]

section
variable {refusal : Text → Option Text} {name : Text} {contents contents' : Contents}

theorem ite_eq_ok_iff {p : Prop} [Decidable p] {changed : Contents} {fault : Fault} :
    (if p then .ok changed else .error fault : Except Fault Contents) = .ok contents' ↔
      p ∧ contents' = changed := by
  by_cases h : p
  · rw [if_pos h]
    exact ⟨fun heq => ⟨h, (Except.ok.inj heq).symm⟩, fun heq => congrArg Except.ok heq.2.symm⟩
  · rw [if_neg h]
    exact ⟨fun heq => (by cases heq), fun heq => absurd heq.1 h⟩

theorem perform_delete : contents.perform refusal (.delete name) = .ok contents' ↔
    name ∈ contents.map Prod.fst ∧ contents' = contents.filter (·.1 ≠ name) := by
  rw [perform, ite_eq_ok_iff, hasName_iff]

theorem perform_create : contents.perform refusal (.create name) = .ok contents' ↔
    name ∉ contents.map Prod.fst ∧ refusal name = none ∧ contents' = contents ++ [(name, [])] := by
  rw [perform, ← hasName_iff]
  by_cases h : contents.hasName name = true
  · rw [if_pos h]
    exact ⟨fun heq => (by cases heq), fun heq => absurd h heq.1⟩
  · rw [if_neg h]
    cases refusal name with
    | some reason => exact ⟨fun heq => (by cases heq), fun heq => (by cases heq.2.1)⟩
    | none =>
      exact ⟨fun heq => ⟨h, rfl, (Except.ok.inj heq).symm⟩, fun heq => congrArg Except.ok heq.2.2.symm⟩

theorem perform_add {batch : Batch} : contents.perform refusal (.add name batch) = .ok contents' ↔
    name ∈ contents.map Prod.fst ∧ contents' = contents.extend name batch.items := by
  rw [perform, ite_eq_ok_iff, hasName_iff]

theorem fst_perform {call : StoreCall} (h : contents.perform refusal call = .ok contents') :
    contents'.map Prod.fst = call.listing (contents.map Prod.fst) := by
  cases call with
  | delete name =>
    obtain ⟨-, rfl⟩ := perform_delete.1 h
    rw [StoreCall.listing, List.filter_map]
    rfl
  | create name =>
    obtain ⟨-, -, rfl⟩ := perform_create.1 h
    exact List.map_append
  | add name batch =>
    obtain ⟨-, rfl⟩ := perform_add.1 h
    exact fst_extend contents name _

theorem answer_ok {call : StoreCall} (h : contents.perform refusal call = .ok contents') :
    (backend refusal).answer call contents = (.ok (), contents') := by
  simp only [backend, h]

theorem answer_error {call : StoreCall} {fault : Fault}
    (h : contents.perform refusal call = .error fault) :
    (backend refusal).answer call contents = (.error fault, contents) := by
  simp only [backend, h]

theorem perform_of_answer {call : StoreCall}
    (h : (backend refusal).answer call contents = (.ok (), contents')) :
    contents.perform refusal call = .ok contents' := by
  cases hperform : contents.perform refusal call with
  | ok changed =>
    rw [answer_ok hperform] at h
    exact congrArg Except.ok (Prod.ext_iff.1 h).2
  | error fault =>
    rw [answer_error hperform] at h
    cases (Prod.ext_iff.1 h).1

theorem isOk_answer {call : StoreCall} : ((backend refusal).answer call contents).1.isOk = true ↔
    ∃ changed, contents.perform refusal call = .ok changed := by
  cases hperform : contents.perform refusal call with
  | ok changed =>
    rw [answer_ok hperform]
    exact ⟨fun _ => ⟨changed, rfl⟩, fun _ => rfl⟩
  | error fault =>
    rw [answer_error hperform]
    exact ⟨fun h => (by cases h), fun h => (by cases h.choose_spec)⟩

end

/-- Plain lists obey the laws, whatever names are refused. -/
theorem lawful_backend (refusal : Text → Option Text) : (backend refusal).Lawful where
  delete {name s s'} h other hother := by
    obtain ⟨-, rfl⟩ := perform_delete.1 (perform_of_answer h)
    exact congrArg (Option.getD · []) (lookup_filter (fun _ => decide_eq_true hother) s)
  create {name s s'} h := by
    obtain ⟨hfree, -, rfl⟩ := perform_create.1 (perform_of_answer h)
    refine ⟨hfree, ?_, fun other hother => ?_⟩
    · show ((s ++ [(name, [])]).lookup name).getD [] = []
      rw [List.lookup_append, lookup_eq_none_of_not_mem hfree, Option.none_or, List.lookup_cons_self]
      rfl
    · show ((s ++ [(name, [])]).lookup other).getD [] = (s.lookup other).getD []
      rw [List.lookup_append, List.lookup_cons, beq_false_of_ne hother, List.lookup_nil, Option.or_none]
  add {name batch s s'} h hempty := by
    obtain ⟨hname, rfl⟩ := perform_add.1 (perform_of_answer h)
    have hitems := lookup_extend_self hname batch.items
    rw [show (s.lookup name).getD [] = [] from hempty, List.nil_append] at hitems
    exact ⟨hitems,
      fun other hother => congrArg (Option.getD · []) (lookup_extend_of_ne hother s _)⟩
  listing h := fst_perform (perform_of_answer h)
  refused {call s fault s'} h := by
    cases hperform : s.perform refusal call with
    | ok changed =>
      rw [answer_ok hperform] at h
      cases (Prod.ext_iff.1 h).1
    | error reason =>
      rw [answer_error hperform] at h
      obtain ⟨-, rfl⟩ := Prod.ext_iff.1 h
      exact ⟨rfl, rfl⟩
  deletable name s := by
    rw [isOk_answer]
    exact ⟨fun h => (perform_delete.1 h.choose_spec).1, fun h => ⟨_, perform_delete.2 ⟨h, rfl⟩⟩⟩
  creatable {name s t} hs ht := by
    have hfree {u : Contents} (hu : name ∉ u.map Prod.fst) :
        ((backend refusal).answer (.create name) u).1.isOk = true ↔ refusal name = none := by
      rw [isOk_answer]
      exact ⟨fun h => (perform_create.1 h.choose_spec).2.1, fun h => ⟨_, perform_create.2 ⟨hu, h, rfl⟩⟩⟩
    rw [Bool.eq_iff_iff, hfree hs, hfree ht]
  addable {name batch s t} hs _ ht _ := by
    rw [Bool.eq_iff_iff, isOk_answer, isOk_answer]
    exact ⟨fun _ => ⟨_, perform_add.2 ⟨ht, rfl⟩⟩, fun _ => ⟨_, perform_add.2 ⟨hs, rfl⟩⟩⟩

end Contents

end QueryBench.Vector
