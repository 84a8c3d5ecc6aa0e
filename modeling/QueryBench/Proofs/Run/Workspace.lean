import QueryBench.CommandLine.Help
import QueryBench.Proofs.Console
import QueryBench.Proofs.Files
import QueryBench.Run.Workspace

/-!
# Steps in a workspace

What each step of a run does to the files: asking and writing to the console leave them, and a
change of files leaves the session.

Main definitions: `Ends`, for a computation that ends well and does the same whatever its session is,
and `Leads`, for one that ends well but may depend on its session. Main statements: `Ends` for each kind
of step, and for a run that ended well what a step of it did (`work_ok`,
`inSession_ok`, `changeFiles_ok`, `lift_ok`).
-/
set_option autoImplicit false

namespace QueryBench

theorem CommandLine.yields_ask {parameters : List Parameter} {arguments : List Text}
    {given : List (Text × Value)} (h : parse parameters arguments = .ok given) (program : Text) :
    Yields (ask program parameters arguments) (.ok given) := by
  unfold ask
  rw [h]
  exact .pure given

variable {α β : Type} {files files' : Files}

/-- In every session the computation gives `a` and turns `files` into `files'`. -/
def Ends (x : Working α) (files : Files) (a : α) (files' : Files) : Prop :=
  ∀ session, ∃ session', runIn x ⟨session, files⟩ = (.ok a, ⟨session', files'⟩)

namespace Ends

theorem pure (a : α) (files : Files) : Ends (Pure.pure a) files a files :=
  fun session => ⟨session, rfl⟩

theorem lift {x : Except Fault α} {a : α} (h : x = .ok a) (files : Files) :
    Ends (liftM x) files a files := by
  subst h
  exact pure a files

theorem bind {x : Working α} {f : α → Working β} {a : α} {b : β} {files'' : Files}
    (hx : Ends x files a files') (hf : Ends (f a) files' b files'') :
    Ends (x >>= f) files b files'' := by
  intro session
  obtain ⟨session', hx⟩ := hx session
  rw [run_bind, hx]
  exact hf session'

theorem work {act : Traced α} {a : α} (h : Yields act (.ok a)) (files : Files) :
    Ends act.work files a files := by
  intro session
  obtain ⟨console, hrun⟩ := h.run session.console
  refine ⟨{ session with console }, ?_⟩
  show (let (outcome, console) := runIn act session.console
    (outcome, (⟨{ session with console }, files⟩ : Workspace))) = _
  rw [hrun]

theorem changeFiles {change : Files → Except Fault Files} (h : change files = .ok files') :
    Ends (changeFiles change) files () files' := by
  intro session
  refine ⟨session, ?_⟩
  show runIn (liftM (change files) >>= fun files => set (⟨session, files⟩ : Workspace) :
    Working Unit) ⟨session, files⟩ = _
  rw [h]
  rfl

theorem withFiles {change : Files → Except Fault (α × Files)} {a : α}
    (h : change files = .ok (a, files')) : Ends (withFiles change) files a files' := by
  intro session
  refine ⟨session, ?_⟩
  show runIn (liftM (change files) >>= fun r : α × Files =>
    set (⟨session, r.2⟩ : Workspace) >>= fun _ => Pure.pure r.1 : Working α) ⟨session, files⟩ = _
  rw [h]
  rfl

theorem writePieces {path : Text} {pieces : List (Except Fault Text)}
    (h : files.writePieces path pieces = (files', .ok ())) :
    Ends (writePieces path pieces) files () files' := by
  intro session
  refine ⟨session, ?_⟩
  have hrun : runIn (QueryBench.writePieces path pieces) ⟨session, files⟩ =
      ((files.writePieces path pieces).2, ⟨session, (files.writePieces path pieces).1⟩) := rfl
  rw [hrun, h]

theorem currentFiles (files : Files) : Ends currentFiles files files files :=
  fun session => ⟨session, rfl⟩

end Ends

/-- In every session the computation turns `files` into files, and gives a result, for which `P`
holds. -/
def Leads (x : Working α) (files : Files) (P : α → Files → Prop) : Prop :=
  ∀ session, ∃ a w, runIn x ⟨session, files⟩ = (.ok a, w) ∧ P a w.files

theorem Leads.mono {x : Working α} {P Q : α → Files → Prop} (hx : Leads x files P)
    (h : ∀ a files', P a files' → Q a files') : Leads x files Q := by
  intro session
  obtain ⟨a, w, hrun, ha⟩ := hx session
  exact ⟨a, w, hrun, h a w.files ha⟩

theorem Leads.bind {x : Working α} {f : α → Working β} {P : α → Files → Prop} {Q : β → Files → Prop}
    (hx : Leads x files P) (hf : ∀ a files', P a files' → Leads (f a) files' Q) :
    Leads (x >>= f) files Q := by
  intro session
  obtain ⟨a, w, hrun, ha⟩ := hx session
  rw [run_bind, hrun]
  exact hf a w.files ha w.session

theorem Leads.inSession {act : StateM Session α} {P : α → Prop} (h : Always act P) (files : Files) :
    Leads (inSession act) files fun a files' => P a ∧ files' = files :=
  fun session => ⟨_, _, rfl, h session, rfl⟩

/-! ## Runs that ended well -/

section
variable {w w' : Workspace}

theorem lift_ok {x : Except Fault α} {a : α}
    (h : runIn (liftM x : Working α) w = (.ok a, w')) : x = .ok a ∧ w' = w :=
  (run_lift_ok h).imp_right Eq.symm

theorem work_ok {act : Traced α} {r : Except Fault α} {a : α} (hact : Yields act r)
    (h : runIn act.work w = (.ok a, w')) : r = .ok a ∧ w'.files = w.files := by
  obtain ⟨console, hrun⟩ := hact.run w.session.console
  have hwork : runIn act.work w = (r, { w with session := { w.session with console } }) := by
    show (let (outcome, console) := runIn act w.session.console
      (outcome, { w with session := { w.session with console } })) = _
    rw [hrun]
  rw [hwork] at h
  cases h
  exact ⟨rfl, rfl⟩

theorem inSession_ok {act : StateM Session α} {a : α}
    (h : runIn (inSession act) w = (.ok a, w')) :
    a = (act.run w.session).1 ∧ w'.files = w.files := by
  have hrun : runIn (inSession act) w =
      (.ok (act.run w.session).1, { w with session := (act.run w.session).2 }) := rfl
  rw [hrun] at h
  cases h
  exact ⟨rfl, rfl⟩

theorem changeFiles_ok {change : Files → Except Fault Files} {u : Unit}
    (h : runIn (changeFiles change) w = (.ok u, w')) : change w.files = .ok w'.files := by
  have hrun : runIn (changeFiles change) w =
      runIn (liftM (change w.files) >>= fun files => set { w with files } : Working Unit) w := rfl
  rw [hrun] at h
  obtain ⟨files, w₁, hchange, hset⟩ := run_bind_ok h
  obtain ⟨hchange, rfl⟩ := lift_ok hchange
  cases hset
  exact hchange

theorem withFiles_ok {change : Files → Except Fault (α × Files)} {a : α}
    (h : runIn (withFiles change) w = (.ok a, w')) : change w.files = .ok (a, w'.files) := by
  have hrun : runIn (withFiles change) w =
      runIn (liftM (change w.files) >>= fun r : α × Files =>
        set { w with files := r.2 } >>= fun _ => Pure.pure r.1 : Working α) w := rfl
  rw [hrun] at h
  obtain ⟨r, w₁, hchange, hset⟩ := run_bind_ok h
  obtain ⟨hchange, rfl⟩ := lift_ok hchange
  cases hset
  exact hchange

theorem writePieces_ok {path : Text} {pieces : List (Except Fault Text)} {u : Unit}
    (h : runIn (writePieces path pieces) w = (.ok u, w')) :
    w.files.writePieces path pieces = (w'.files, .ok ()) := by
  have hrun : runIn (writePieces path pieces) w =
      ((w.files.writePieces path pieces).2, { w with files := (w.files.writePieces path pieces).1 }) :=
    rfl
  rw [hrun] at h
  rcases hpieces : w.files.writePieces path pieces with ⟨files, outcome⟩
  rw [hpieces] at h
  cases h
  rfl

theorem currentFiles_ok {files : Files} (h : runIn currentFiles w = (.ok files, w')) :
    files = w.files ∧ w' = w := by
  cases h
  exact ⟨rfl, rfl⟩

end

end QueryBench
