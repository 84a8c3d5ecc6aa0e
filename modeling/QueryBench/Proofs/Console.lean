import QueryBench.Console
import QueryBench.Proofs.Outcome

/-!
# What was done before does not matter

A computation that writes cannot read what was written before. So its outcome is the same wherever
it starts, and the computation can be replaced by this outcome. The same can hold of a computation
with another state.

Main definitions: `Gives` and `Yields`, which name the outcome, and `Settled`, which says that there
is one. They hold of the basic computations and are kept by `bind`, `tryCatch` and going through a
list. Where the outcome does depend on the state, `Always` and `Ensures` say what holds of it all the
same.
-/
set_option autoImplicit false

namespace QueryBench
variable {σ α β : Type}

/-- Whatever the state, the computation gives `a`. -/
def Gives (act : StateM σ α) (a : α) : Prop :=
  ∀ s, (act.run s).1 = a

/-- Whatever the state, the computation ends with `r`. -/
def Yields (act : ExceptT Fault (StateM σ) α) (r : Except Fault α) : Prop :=
  ∀ s, (runIn act s).1 = r

/-- The outcome does not depend on the state. -/
def Settled (act : ExceptT Fault (StateM σ) α) : Prop :=
  ∃ r, Yields act r

namespace Gives

theorem pure (a : α) : Gives (Pure.pure a : StateM σ α) a :=
  fun _ => rfl

theorem bind {x : StateM σ α} {f : α → StateM σ β} {a : α} {b : β} (hx : Gives x a)
    (hf : Gives (f a) b) : Gives (x >>= f) b := by
  intro s
  have hx := hx s
  rw [StateT.run_bind]
  rcases hrun : x.run s with ⟨a', s'⟩
  rw [hrun] at hx
  obtain rfl : a' = a := hx
  exact hf s'

theorem after {x : StateM σ α} {f : α → StateM σ β} {b : β} (s : σ) (hf : Gives (f (x.run s).1) b) :
    ((x >>= f).run s).1 = b :=
  hf (x.run s).2

end Gives

namespace Yields
variable {x : ExceptT Fault (StateM σ) α} {f : α → ExceptT Fault (StateM σ) β}
  {handler : Fault → ExceptT Fault (StateM σ) α}

theorem gives {r : Except Fault α} (h : Yields x r) : Gives x.run r :=
  h

theorem run {r : Except Fault α} (h : Yields x r) (s : σ) : ∃ s', runIn x s = (r, s') :=
  ⟨(runIn x s).2, Prod.ext (h s) rfl⟩

theorem eq [Inhabited σ] {r r' : Except Fault α} (h : Yields x r) (h' : Yields x r') : r = r' := by
  rw [← h default, h' default]

theorem pure (a : α) : Yields (Pure.pure a : ExceptT Fault (StateM σ) α) (.ok a) :=
  fun _ => rfl

theorem throw (fault : Fault) :
    Yields (MonadExcept.throw fault : ExceptT Fault (StateM σ) α) (.error fault) :=
  fun _ => rfl

theorem lift (x : Except Fault α) : Yields (liftM x : ExceptT Fault (StateM σ) α) x :=
  fun _ => rfl

theorem lift_ok {x : Except Fault α} {a : α} (h : x = .ok a) :
    Yields (liftM x : ExceptT Fault (StateM σ) α) (.ok a) :=
  h ▸ lift x

theorem say (line : Text) : Yields (say line) (.ok ()) :=
  fun _ => rfl

theorem bind {r : Except Fault α} {g : α → Except Fault β}
    (hx : Yields x r) (hf : ∀ a, r = .ok a → Yields (f a) (g a)) : Yields (x >>= f) (r >>= g) := by
  intro console
  obtain ⟨console', hrun⟩ := hx.run console
  rw [run_bind, hrun]
  cases r with
  | error fault => rfl
  | ok a => exact hf a rfl console'

theorem bind_ok {a : α} {r : Except Fault β}
    (hx : Yields x (.ok a)) (hf : Yields (f a) r) : Yields (x >>= f) r := by
  have h := hx.bind (f := f) (g := fun _ => r) fun b hb => by
    obtain rfl := Except.ok.inj hb
    exact hf
  exact h

theorem bind_error {fault : Fault}
    (hx : Yields x (.error fault)) : Yields (x >>= f) (.error fault) := by
  have h := hx.bind (f := f) (g := fun _ => .error fault) fun b hb => nomatch hb
  exact h

theorem tryCatch_ok {a : α}
    (hx : Yields x (.ok a)) : Yields (tryCatch x handler) (.ok a) := by
  intro console
  obtain ⟨console', hrun⟩ := hx.run console
  rw [run_tryCatch, hrun]

theorem tryCatch_error {fault : Fault}
    {r : Except Fault α} (hx : Yields x (.error fault)) (hh : Yields (handler fault) r) :
    Yields (tryCatch x handler) r := by
  intro console
  obtain ⟨console', hrun⟩ := hx.run console
  rw [run_tryCatch, hrun]
  exact hh console'

end Yields

namespace Settled
variable {x : ExceptT Fault (StateM σ) α} {f : α → ExceptT Fault (StateM σ) β}

theorem yields (h : Settled x) (s : σ) : Yields x (runIn x s).1 := by
  obtain ⟨r, hr⟩ := h
  rw [hr s]
  exact hr

theorem pure (a : α) : Settled (Pure.pure a : ExceptT Fault (StateM σ) α) :=
  ⟨_, .pure a⟩

theorem throw (fault : Fault) : Settled (MonadExcept.throw fault : ExceptT Fault (StateM σ) α) :=
  ⟨_, .throw fault⟩

theorem lift (x : Except Fault α) : Settled (liftM x : ExceptT Fault (StateM σ) α) :=
  ⟨_, .lift x⟩

theorem say (line : Text) : Settled (say line) :=
  ⟨_, .say line⟩

theorem bind (hx : Settled x) (hf : ∀ a, Settled (f a)) : Settled (x >>= f) := by
  obtain ⟨fault | a, hx⟩ := hx
  · exact ⟨_, hx.bind_error⟩
  · obtain ⟨r, hr⟩ := hf a
    exact ⟨r, hx.bind_ok hr⟩

end Settled

/-- Whatever the state, the result has the property. -/
def Always (act : StateM σ α) (P : α → Prop) : Prop :=
  ∀ s, P (act.run s).1

namespace Always
variable {x : StateM σ α} {f : α → StateM σ β} {P : α → Prop} {Q : β → Prop}

theorem pure {a : α} (h : P a) : Always (Pure.pure a : StateM σ α) P :=
  fun _ => h

theorem bind (hx : Always x P) (hf : ∀ a, P a → Always (f a) Q) : Always (x >>= f) Q :=
  fun s => hf _ (hx s) (x.run s).2

theorem true (x : StateM σ α) : Always x fun _ => True :=
  fun _ => trivial

end Always

/-- Whenever the computation ends well, its result has the property. -/
def Ensures (x : ExceptT Fault (StateM σ) α) (P : α → Prop) : Prop :=
  ∀ s a s', runIn x s = (.ok a, s') → P a

namespace Ensures
variable {x : ExceptT Fault (StateM σ) α} {f : α → ExceptT Fault (StateM σ) β} {P : α → Prop}
  {Q : β → Prop}

theorem always (h : Ensures x P) : Always x.run fun r => ∀ a, r = .ok a → P a :=
  fun s a ha => h s a (runIn x s).2 (Prod.ext ha rfl)

theorem pure {a : α} (h : P a) : Ensures (Pure.pure a : ExceptT Fault (StateM σ) α) P := by
  intro s b s' hrun
  cases hrun
  exact h

theorem throw (fault : Fault) :
    Ensures (MonadExcept.throw fault : ExceptT Fault (StateM σ) α) P := by
  intro s b s' hrun
  cases hrun

theorem lift {r : Except Fault α} (h : ∀ a, r = .ok a → P a) :
    Ensures (liftM r : ExceptT Fault (StateM σ) α) P := by
  intro s b s' hrun
  rw [run_lift] at hrun
  cases hrun
  exact h b rfl

theorem of_yields {r : Except Fault α} (h : Yields x r) : Ensures x fun a => r = .ok a := by
  intro s a s' hrun
  rw [← h s, hrun]

theorem bind (hx : Ensures x P) (hf : ∀ a, P a → Ensures (f a) Q) : Ensures (x >>= f) Q := by
  intro s b s' hrun
  obtain ⟨a, s₁, ha, hb⟩ := run_bind_ok hrun
  exact hf a (hx s a s₁ ha) s₁ b s' hb

theorem true (x : ExceptT Fault (StateM σ) α) : Ensures x fun _ => True :=
  fun _ _ _ _ => trivial

theorem tryCatch {handler : Fault → ExceptT Fault (StateM σ) α} (hx : Ensures x P)
    (hh : ∀ fault, Ensures (handler fault) P) : Ensures (MonadExcept.tryCatch x handler) P := by
  intro s a s' hrun
  have hcatch := run_tryCatch x handler s
  rw [show runIn (MonadExcept.tryCatch x handler) s = (.ok a, s') from hrun] at hcatch
  rcases hrun' : runIn x s with ⟨fault | b, s₁⟩
  · rw [hrun'] at hcatch
    exact hh fault s₁ a s' hcatch.symm
  · rw [hrun'] at hcatch
    cases hcatch
    exact hx s a s' hrun'

/-- What each item gives when a list is gone through. -/
theorem forall₂ {xs : List α} {P : α → β → Prop} (h : ∀ a ∈ xs, Ensures (f a) (P a)) :
    Ensures (xs.mapM f) (List.Forall₂ P xs) := by
  induction xs with
  | nil =>
    rw [List.mapM_nil]
    exact .pure .nil
  | cons a xs ih =>
    obtain ⟨ha, hxs⟩ := List.forall_mem_cons.1 h
    rw [List.mapM_cons]
    exact ha.bind fun b hb => (ih hxs).bind fun bs hbs => .pure (.cons hb hbs)

/-- What each item ensures of its result holds of all results when a list is gone through. -/
theorem forall_mem {xs : List α} (h : ∀ a ∈ xs, Ensures (f a) Q) :
    Ensures (xs.mapM f) fun ys => ∀ b ∈ ys, Q b :=
  fun s ys s' hrun => forall_mem_of_forall₂ (forall₂ h s ys s' hrun) fun _ _ _ hb => hb

end Ensures

end QueryBench
