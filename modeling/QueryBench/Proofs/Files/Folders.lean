import QueryBench.Proofs.Files

/-!
# Folders that are made

Making folders keeps every file, and every path that led somewhere leads there still. Which folders
are made, and whether they can be, does not depend on what the files hold.

Main definition: `Files.Grows`. Main statements: `grows_makeFolders` and `SameShape.makeFolders`.
-/
set_option autoImplicit false

namespace QueryBench.Files

/-! ## What was there is there still -/

/-- The same files in at least the same folders. -/
structure Grows (a b : Files) : Prop where
  base : b.base = a.base
  contents : b.contents = a.contents
  folder : ∀ p, a.isFolderAt p = true → b.isFolderAt p = true

namespace Grows
variable {a b c : Files}

theorem refl (a : Files) : Grows a a :=
  ⟨rfl, rfl, fun _ h => h⟩

theorem trans (hab : Grows a b) (hbc : Grows b c) : Grows a c where
  base := hbc.base.trans hab.base
  contents := hbc.contents.trans hab.contents
  folder := fun p h => hbc.folder p (hab.folder p h)

theorem isAt (h : Grows a b) {p : Location} (hp : a.isAt p = true) : b.isAt p = true := by
  rw [isAt_iff] at hp ⊢
  rw [h.contents]
  exact hp.imp (h.folder p) id

theorem find (h : Grows a b) {path : Text} {q : Location} (hfind : a.find path = .ok q) :
    b.find path = .ok q := by
  obtain ⟨u, hcheck, hfollow⟩ := ok_of_bind hfind
  unfold Files.find Files.start
  rw [hcheck, ok_bind, h.base]
  exact follow_mono h.folder (fun _ => h.isAt) hfollow

theorem text? (h : Grows a b) {path s : Text} (htext : a.text? path = some s) :
    b.text? path = some s := by
  obtain ⟨place, content, hfind, hlookup, hdecode⟩ := text?_eq_some.1 htext
  exact text?_eq_some.2 ⟨place, content, h.find hfind, h.contents ▸ hlookup, hdecode⟩

end Grows

/-- A folder is made in one that is there, so the one above need not be kept by itself. -/
theorem grows_makeFolder {a b : Files} {path : Text} (h : a.makeFolder path = .ok b) : Grows a b := by
  obtain ⟨⟨folder, name⟩, hparent, h⟩ := ok_of_bind h
  dsimp only at h
  split at h
  next => cases h
  next =>
    split at h
    next => cases h
    next =>
      split at h
      next => cases h
      next =>
        cases h
        refine ⟨rfl, rfl, fun p hp => ?_⟩
        rcases isFolderAt_iff.1 hp with hbase | ⟨q, hq, hpq⟩ | hcontents
        · exact isFolderAt_iff.2 (.inl hbase)
        · refine isFolderAt_iff.2 (.inr (.inl ?_))
          by_cases hqf : q = folder
          · refine ⟨folder ++ [name], by simp, hpq.trans ?_⟩
            rw [hqf]
            exact List.prefix_append folder [name]
          · exact ⟨q, by simp [hq, hqf], hpq⟩
        · exact isFolderAt_iff.2 (.inr (.inr hcontents))

theorem grows_ensureFolder (files : Files) (path : Text) : Grows files (files.ensureFolder path).1 := by
  unfold ensureFolder
  cases h : files.makeFolder path with
  | error e => exact .refl files
  | ok made => exact grows_makeFolder h

/-- The folder above the last name of a path, and that name. -/
def above (path : Text) : Text × Text :=
  match Path.split path with
  | (head, []) => Path.split head
  | parts => parts

/-- A folder is made after those above it. -/
def ensureLast (path tail : Text) : Files × Except Fault Unit → Files × Except Fault Unit
  | (files, .ok ()) | (files, .error (.fileExists _)) =>
    if tail = "." then (files, .ok ()) else files.ensureFolder path
  | failed => failed

theorem ensureFolders_succ (files : Files) (fuel : Nat) (path : Text) :
    files.ensureFolders (fuel + 1) path =
      if (above path).1.isEmpty || (above path).2.isEmpty || files.exist (above path).1 then
        files.ensureFolder path
      else ensureLast path (above path).2 (files.ensureFolders fuel (above path).1) := by
  rfl

theorem grows_ensureLast (path tail : Text) (made : Files × Except Fault Unit) :
    Grows made.1 (ensureLast path tail made).1 := by
  fun_cases ensureLast path tail made with
  | case1 => exact .refl _
  | case2 => exact grows_ensureFolder _ path
  | case3 => exact .refl _
  | case4 => exact grows_ensureFolder _ path
  | case5 => exact .refl _

theorem grows_ensureFolders (fuel : Nat) (files : Files) (path : Text) :
    Grows files (files.ensureFolders fuel path).1 := by
  induction fuel generalizing path with
  | zero => exact grows_ensureFolder files path
  | succ fuel ih =>
    rw [ensureFolders_succ]
    split
    · exact grows_ensureFolder files path
    · exact (ih _).trans (grows_ensureLast path _ _)

theorem grows_makeFolders {a b : Files} {path : Text} (h : a.makeFolders path = .ok b) :
    Grows a b := by
  unfold makeFolders at h
  have hgrows := grows_ensureFolders path.length a path
  obtain ⟨u, -, h⟩ := ok_of_bind h
  cases h
  exact hgrows

/-! ## Folders and what files hold -/

namespace SameShape
variable {a b : Files}

theorem makeFolder (h : SameShape a b) (path : Text) :
    (∃ e, a.makeFolder path = .error e ∧ b.makeFolder path = .error e) ∨
      ∃ a' b', a.makeFolder path = .ok a' ∧ b.makeFolder path = .ok b' ∧ SameShape a' b' := by
  unfold Files.makeFolder
  rw [h.parent]
  cases b.parent path with
  | error e => exact .inl ⟨e, rfl, rfl⟩
  | ok found =>
    obtain ⟨folder, name⟩ := found
    simp only [ok_bind, h.isAt]
    split
    · exact .inl ⟨_, rfl, rfl⟩
    · split
      · exact .inl ⟨_, rfl, rfl⟩
      · split
        · exact .inl ⟨_, rfl, rfl⟩
        · exact .inr ⟨_, _, rfl, rfl, h.base, by simp only [h.folders], h.places⟩

theorem exist (h : SameShape a b) (path : Text) : a.exist path = b.exist path := by
  unfold Files.exist
  rw [h.find]

theorem ensureFolder (h : SameShape a b) (path : Text) :
    SameShape (a.ensureFolder path).1 (b.ensureFolder path).1 ∧
      (a.ensureFolder path).2 = (b.ensureFolder path).2 := by
  have hfolder : a.isFolder path = b.isFolder path := by
    unfold Files.isFolder
    rw [h.find]
    simp only [h.isFolderAt]
  unfold Files.ensureFolder
  rcases h.makeFolder path with ⟨e, ha, hb⟩ | ⟨a', b', ha, hb, h'⟩
  · rw [ha, hb, hfolder]
    exact ⟨h, rfl⟩
  · rw [ha, hb]
    exact ⟨h', rfl⟩

theorem ensureLast {x y : Files × Except Fault Unit} (h : SameShape x.1 y.1) (hxy : x.2 = y.2)
    (path tail : Text) :
    SameShape (Files.ensureLast path tail x).1 (Files.ensureLast path tail y).1 ∧
      (Files.ensureLast path tail x).2 = (Files.ensureLast path tail y).2 := by
  obtain ⟨a, r⟩ := x
  obtain ⟨b, r'⟩ := y
  obtain rfl : r = r' := hxy
  have hlast : ∀ r, SameShape (if tail = "." then (a, r) else a.ensureFolder path).1
      (if tail = "." then (b, r) else b.ensureFolder path).1 ∧
      (if tail = "." then (a, r) else a.ensureFolder path).2 =
        (if tail = "." then (b, r) else b.ensureFolder path).2 := by
    intro r
    by_cases htail : tail = "."
    · simp only [if_pos htail]
      exact ⟨h, trivial⟩
    · simp only [if_neg htail]
      exact SameShape.ensureFolder h path
  cases r with
  | ok u => exact hlast _
  | error fault =>
    cases fault with
    | fileExists taken => exact hlast _
    | _ => exact ⟨h, rfl⟩

theorem ensureFolders (h : SameShape a b) (fuel : Nat) (path : Text) :
    SameShape (a.ensureFolders fuel path).1 (b.ensureFolders fuel path).1 ∧
      (a.ensureFolders fuel path).2 = (b.ensureFolders fuel path).2 := by
  induction fuel generalizing path with
  | zero => exact h.ensureFolder path
  | succ fuel ih =>
    rw [ensureFolders_succ, ensureFolders_succ, h.exist]
    split
    · exact h.ensureFolder path
    · exact ensureLast (ih _).1 (ih _).2 path _

theorem makeFolders (h : SameShape a b) {path : Text} {a' : Files}
    (ha : a.makeFolders path = .ok a') : ∃ b', b.makeFolders path = .ok b' ∧ SameShape a' b' := by
  obtain ⟨hshape, houtcome⟩ := h.ensureFolders path.length path
  unfold Files.makeFolders at ha ⊢
  obtain ⟨u, hok, ha⟩ := ok_of_bind ha
  cases ha
  refine ⟨_, ?_, hshape⟩
  rw [houtcome] at hok
  dsimp only
  rw [hok]
  rfl

end SameShape

end QueryBench.Files
