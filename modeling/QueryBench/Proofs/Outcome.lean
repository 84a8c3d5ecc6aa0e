import Mathlib.Data.List.Forall2
import QueryBench.Fault

/-!
# Taking computations apart

A computation here either is a plain result that may be a fault, or carries a state along as well.
A run that ends well went well at every step, so it can be cut at each bind.

Main statements: `ok_of_bind` and `mapM_eq_ok_iff` for plain results, `run_bind`, `run_bind_ok` and
`run_bind_error` for those with a state.
-/
set_option autoImplicit false

namespace QueryBench

section Plain
variable {ε α β : Type}

@[simp] theorem ok_bind (a : α) (f : α → Except ε β) : (Except.ok a >>= f) = f a := rfl

theorem ok_of_bind {x : Except ε α} {f : α → Except ε β} {b : β} (h : x >>= f = .ok b) :
    ∃ a, x = .ok a ∧ f a = .ok b := by
  rcases x with e | a
  · nomatch h
  · exact ⟨a, rfl, h⟩

theorem ok_of_map {x : Except ε α} {f : α → β} {b : β} (h : x.map f = .ok b) :
    ∃ a, x = .ok a ∧ f a = b := by
  rcases x with e | a
  · nomatch h
  · exact ⟨a, rfl, Except.ok.inj h⟩

theorem ok_of_mapError {δ : Type} {x : Except δ α} {f : δ → ε} {a : α}
    (h : x.mapError f = .ok a) : x = .ok a := by
  rcases x with e | a'
  · nomatch h
  · exact congrArg Except.ok (Except.ok.inj h)

theorem ok_of_toOption {x : Except ε α} {a : α} (h : x.toOption = some a) : x = .ok a := by
  cases x with
  | error e => cases h
  | ok b => exact congrArg Except.ok (Option.some.inj h)

/-- A list is gone through without a fault exactly if every item gives its own result. -/
theorem mapM_eq_ok_iff {f : α → Except ε β} {items : List α} {results : List β} :
    items.mapM f = .ok results ↔ List.Forall₂ (fun a b => f a = .ok b) items results := by
  induction items generalizing results with
  | nil =>
    rw [List.mapM_nil, List.forall₂_nil_left_iff]
    exact ⟨fun h => (Except.ok.inj h).symm, fun h => congrArg Except.ok h.symm⟩
  | cons a items ih =>
    rw [List.mapM_cons]
    constructor
    · intro h
      obtain ⟨b, hb, h⟩ := ok_of_bind h
      obtain ⟨bs, hbs, h⟩ := ok_of_bind h
      obtain rfl : b :: bs = results := Except.ok.inj h
      exact .cons hb (ih.mp hbs)
    · intro h
      cases h with
      | cons hb hbs =>
        rw [hb, ih.mpr hbs]
        rfl

theorem exists_mem_of_forall₂ {R : α → β → Prop} {xs : List α} {ys : List β}
    (h : List.Forall₂ R xs ys) {a : α} (ha : a ∈ xs) : ∃ b ∈ ys, R a b := by
  induction h with
  | nil => cases ha
  | @cons x y _ _ hxy _ ih =>
    obtain rfl | ha := List.mem_cons.1 ha
    · exact ⟨y, List.mem_cons_self, hxy⟩
    · obtain ⟨b, hb, hab⟩ := ih ha
      exact ⟨b, List.mem_cons_of_mem y hb, hab⟩

theorem forall_mem_of_forall₂ {R : α → β → Prop} {P : β → Prop} {xs : List α}
    {ys : List β} (h : List.Forall₂ R xs ys) (hP : ∀ a ∈ xs, ∀ b, R a b → P b) : ∀ b ∈ ys, P b := by
  induction h with
  | nil => exact nofun
  | cons hab _ ih =>
    obtain ⟨ha, hxs⟩ := List.forall_mem_cons.1 hP
    exact List.forall_mem_cons.2 ⟨ha _ hab, ih hxs⟩

theorem forall₂_trans {γ : Type} {R : α → β → Prop} {S : β → γ → Prop} {T : α → γ → Prop}
    (hT : ∀ a b c, R a b → S b c → T a c) {xs : List α} {ys : List β} {zs : List γ}
    (hxs : List.Forall₂ R xs ys) (hys : List.Forall₂ S ys zs) : List.Forall₂ T xs zs := by
  induction hxs generalizing zs with
  | nil =>
    cases hys
    exact .nil
  | cons hab _ ih =>
    cases hys with
    | cons hbc hrest => exact .cons (hT _ _ _ hab hbc) (ih hrest)

end Plain

section Stateful
variable {σ α β : Type}

/-- The outcome of a computation that starts in a state, and the state it leaves. -/
abbrev runIn (x : ExceptT Fault (StateM σ) α) (s : σ) : Except Fault α × σ :=
  x.run.run s

theorem run_lift (x : Except Fault α) (s : σ) :
    runIn (liftM x : ExceptT Fault (StateM σ) α) s = (x, s) := rfl

theorem run_lift_ok {x : Except Fault α} {a : α} {s s' : σ}
    (h : runIn (liftM x : ExceptT Fault (StateM σ) α) s = (.ok a, s')) : x = .ok a ∧ s = s' := by
  rw [run_lift] at h
  cases h
  exact ⟨rfl, rfl⟩

theorem run_bind (x : ExceptT Fault (StateM σ) α) (f : α → ExceptT Fault (StateM σ) β) (s : σ) :
    runIn (x >>= f) s = match runIn x s with
      | (.ok a, s') => runIn (f a) s'
      | (.error fault, s') => (.error fault, s') := by
  simp only [runIn, ExceptT.run_bind, StateT.run_bind]
  rcases (StateT.run (ExceptT.run x) s) with ⟨_ | _, s'⟩ <;> rfl

theorem run_tryCatch (x : ExceptT Fault (StateM σ) α) (handler : Fault → ExceptT Fault (StateM σ) α)
    (s : σ) :
    runIn (tryCatch x handler) s = match runIn x s with
      | (.ok a, s') => (.ok a, s')
      | (.error fault, s') => runIn (handler fault) s' := by
  simp only [runIn, ExceptT.run_tryCatch, StateT.run_bind]
  rcases (StateT.run (ExceptT.run x) s) with ⟨_ | _, s'⟩ <;> rfl

theorem run_bind_ok {x : ExceptT Fault (StateM σ) α} {f : α → ExceptT Fault (StateM σ) β}
    {s s' : σ} {b : β} (h : runIn (x >>= f) s = (.ok b, s')) :
    ∃ a s₁, runIn x s = (.ok a, s₁) ∧ runIn (f a) s₁ = (.ok b, s') := by
  rw [run_bind] at h
  rcases hx : runIn x s with ⟨_ | a, s₁⟩
  · rw [hx] at h
    simp at h
  · rw [hx] at h
    exact ⟨a, s₁, rfl, h⟩

theorem run_bind_error {x : ExceptT Fault (StateM σ) α} {f : α → ExceptT Fault (StateM σ) β}
    {s s' : σ} {fault : Fault} (h : runIn (x >>= f) s = (.error fault, s')) :
    runIn x s = (.error fault, s') ∨
      ∃ a s₁, runIn x s = (.ok a, s₁) ∧ runIn (f a) s₁ = (.error fault, s') := by
  rw [run_bind] at h
  rcases hx : runIn x s with ⟨fault' | a, s₁⟩
  · rw [hx] at h
    cases h
    exact .inl rfl
  · rw [hx] at h
    exact .inr ⟨a, s₁, rfl, h⟩

/-- A list whose items are gone through until one fails was gone through well up to that item. -/
theorem run_forM_error {f : α → ExceptT Fault (StateM σ) Unit} {items : List α} {s s' : σ}
    {fault : Fault} (h : runIn (items.forM f) s = (.error fault, s')) :
    ∃ earlier failing later t, items = earlier ++ failing :: later ∧
      runIn (earlier.forM f) s = (.ok (), t) ∧ runIn (f failing) t = (.error fault, s') := by
  induction items generalizing s with
  | nil => cases h
  | cons item items ih =>
    rcases run_bind_error h with hfirst | ⟨_, t, hfirst, hrest⟩
    · exact ⟨[], item, items, s, rfl, rfl, hfirst⟩
    · obtain ⟨earlier, failing, later, t', rfl, hearlier, hfailing⟩ := ih hrest
      refine ⟨item :: earlier, failing, later, t', rfl, ?_, hfailing⟩
      show runIn (f item >>= fun _ => earlier.forM f) s = _
      rw [run_bind, hfirst]
      exact hearlier

end Stateful

end QueryBench
