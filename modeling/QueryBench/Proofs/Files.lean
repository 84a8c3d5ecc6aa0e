import QueryBench.Files
import QueryBench.Proofs.Outcome
import QueryBench.Proofs.Text.Lines
import QueryBench.Proofs.Text.Utf8

/-!
# Files after one of them was written

Where a file may stand is told by the folders, and writing a file that may stand there changes none.
So every path that could be written before leads to the same place as before, and the file itself is
found again.

Main definitions: `Files.Free`, a place where a file may stand, and `Files.SameShape`, files that
differ in their bytes alone. Main statements: `target_put`, `find_of_target`, `find_of_find_put`.
-/
set_option autoImplicit false

namespace QueryBench.Files

/-! ## Contents -/

theorem lookup_putContent_self (contents : List (Location × List UInt8)) (place : Location)
    (content : List UInt8) : (putContent contents place content).lookup place = some content := by
  fun_induction putContent contents place content with
  | case1 => simp
  | case2 c rest => simp
  | case3 p c rest hp ih =>
    rw [List.lookup_cons, beq_false_of_ne (Ne.symm hp)]
    exact ih

theorem lookup_putContent_of_ne (contents : List (Location × List UInt8)) {place other : Location}
    (hne : other ≠ place) (content : List UInt8) :
    (putContent contents place content).lookup other = contents.lookup other := by
  fun_induction putContent contents place content with
  | case1 => simp [hne]
  | case2 c rest => rw [List.lookup_cons, List.lookup_cons, beq_false_of_ne hne]
  | case3 p c rest hp ih => simp only [List.lookup_cons, ih]

theorem putContent_putContent (contents : List (Location × List UInt8)) (place : Location)
    (a b : List UInt8) :
    putContent (putContent contents place a) place b = putContent contents place b := by
  fun_induction putContent contents place a with
  | case1 => simp [putContent]
  | case2 c rest => simp [putContent]
  | case3 p c rest hp ih => simp [putContent, hp, ih]

theorem mem_putContent {contents : List (Location × List UInt8)} {place p : Location}
    {content : List UInt8} :
    p ∈ (putContent contents place content).map Prod.fst ↔ p = place ∨ p ∈ contents.map Prod.fst := by
  fun_induction putContent contents place content with
  | case1 => simp
  | case2 c rest => simp
  | case3 q c rest hq ih =>
    rw [List.map_cons, List.mem_cons, ih, List.map_cons, List.mem_cons]
    tauto

theorem putContent_keys {x y : List (Location × List UInt8)}
    (h : x.map Prod.fst = y.map Prod.fst) (place : Location) (a b : List UInt8) :
    (putContent x place a).map Prod.fst = (putContent y place b).map Prod.fst := by
  induction x generalizing y with
  | nil =>
    obtain rfl := List.map_eq_nil_iff.1 h.symm
    rfl
  | cons f rest ih =>
    obtain ⟨f', rest', rfl, hf, hrest⟩ := List.map_eq_cons_iff.1 h.symm
    rw [putContent, putContent, hf]
    split
    · simp [hrest]
    · simp [ih hrest.symm]

theorem lookup_put_self (files : Files) (place : Location) (content : List UInt8) :
    (files.put place content).contents.lookup place = some content :=
  lookup_putContent_self files.contents place content

theorem lookup_put_of_ne (files : Files) {place other : Location} (hne : other ≠ place)
    (content : List UInt8) :
    (files.put place content).contents.lookup other = files.contents.lookup other :=
  lookup_putContent_of_ne files.contents hne content

theorem put_put (files : Files) (place : Location) (a b : List UInt8) :
    (files.put place a).put place b = files.put place b := by
  unfold put
  simp only [putContent_putContent]

theorem putContent_lookup {contents : List (Location × List UInt8)} {place : Location}
    {content : List UInt8} (h : contents.lookup place = some content) :
    putContent contents place content = contents := by
  fun_induction putContent contents place content with
  | case1 => cases h
  | case2 c rest =>
    rw [List.lookup_cons_self] at h
    cases h
    rfl
  | case3 p c rest hp ih =>
    rw [List.lookup_cons, beq_false_of_ne (Ne.symm hp)] at h
    rw [ih h]

/-- Writing what is there changes nothing. -/
theorem put_lookup {files : Files} {place : Location} {content : List UInt8}
    (h : files.contents.lookup place = some content) : files.put place content = files := by
  unfold put
  rw [putContent_lookup h]

/-! ## Folders -/

theorem isFolderAt_iff {files : Files} {place : Location} :
    files.isFolderAt place = true ↔
      place <+: files.base ∨ (∃ p ∈ files.folders, place <+: p) ∨
        ∃ p ∈ files.contents.map Prod.fst, place <+: p ∧ place.length < p.length := by
  simp [isFolderAt, or_assoc]

theorem isFolderAt_of_prefix {files : Files} {p q : Location} (hpq : p <+: q)
    (hq : files.isFolderAt q = true) : files.isFolderAt p = true := by
  rw [isFolderAt_iff] at hq ⊢
  rcases hq with hbase | ⟨r, hr, hqr⟩ | ⟨r, hr, hqr, hlength⟩
  · exact .inl (hpq.trans hbase)
  · exact .inr (.inl ⟨r, hr, hpq.trans hqr⟩)
  · exact .inr (.inr ⟨r, hr, hpq.trans hqr, Nat.lt_of_le_of_lt hpq.length_le hlength⟩)

/-- May a file stand at a place? Its folder is there, and it is none itself. -/
structure Free (files : Files) (place : Location) : Prop where
  ne_nil : place ≠ []
  folder : files.isFolderAt place.dropLast = true
  not_folder : files.isFolderAt place = false

section
variable {files : Files} {place : Location}

theorem isFolderAt_put (hfree : files.Free place) (content : List UInt8) (p : Location) :
    (files.put place content).isFolderAt p = files.isFolderAt p := by
  rw [Bool.eq_iff_iff]
  constructor
  · intro h
    rcases isFolderAt_iff.1 h with hbase | hfolder | ⟨r, hr, hpr, hlength⟩
    · exact isFolderAt_iff.2 (.inl hbase)
    · exact isFolderAt_iff.2 (.inr (.inl hfolder))
    · rcases mem_putContent.1 hr with rfl | hr
      · have hp : p <+: r.dropLast := by
          refine List.prefix_of_prefix_length_le hpr (List.dropLast_prefix r) ?_
          rw [List.length_dropLast]
          omega
        exact isFolderAt_of_prefix hp hfree.folder
      · exact isFolderAt_iff.2 (.inr (.inr ⟨r, hr, hpr, hlength⟩))
  · intro h
    rcases isFolderAt_iff.1 h with hbase | hfolder | ⟨r, hr, hpr⟩
    · exact isFolderAt_iff.2 (.inl hbase)
    · exact isFolderAt_iff.2 (.inr (.inl hfolder))
    · exact isFolderAt_iff.2 (.inr (.inr ⟨r, mem_putContent.2 (.inr hr), hpr⟩))

theorem isAt_iff {files : Files} {place : Location} :
    files.isAt place = true ↔
      files.isFolderAt place = true ∨ place ∈ files.contents.map Prod.fst := by
  rw [isAt, Bool.or_eq_true, List.lookup_isSome_iff]
  simp

theorem isAt_put (hfree : files.Free place) (content : List UInt8) {p : Location} :
    (files.put place content).isAt p = true ↔ files.isAt p = true ∨ p = place := by
  rw [isAt_iff, isAt_iff, isFolderAt_put hfree, or_assoc, or_congr_right]
  rw [or_comm]
  exact mem_putContent

/-! ## Paths -/

/-- What a name leads to depends on the files only by whether that is there. -/
theorem step_congr {a b : Files} {p next : Location} {name : Text}
    (hat : p ++ [name] = next → a.isAt next = true → b.isAt next = true)
    (h : a.step p name = .ok next) : b.step p name = .ok next := by
  unfold step at h ⊢
  split at h
  next hstay => rw [if_pos hstay, h]
  next hstay =>
    rw [if_neg hstay]
    split at h
    next hup => rw [if_pos hup, h]
    next hup =>
      rw [if_neg hup]
      split at h
      next => cases h
      next hlength =>
        rw [if_neg hlength]
        split at h
        next hthere =>
          obtain rfl : p ++ [name] = next := Except.ok.inj h
          rw [if_pos (hat rfl hthere)]
        next => cases h

theorem follow_mono {a b : Files} (hfolder : ∀ p, a.isFolderAt p = true → b.isFolderAt p = true)
    (hat : ∀ p, a.isAt p = true → b.isAt p = true) {names : List Text} {p q : Location}
    (h : a.follow p names = .ok q) : b.follow p names = .ok q := by
  induction names generalizing p with
  | nil => exact h
  | cons name rest ih =>
    rw [follow] at h ⊢
    split at h
    next hp =>
      obtain ⟨next, hstep, hrest⟩ := ok_of_bind h
      rw [if_pos (hfolder p hp), step_congr (fun _ => hat next) hstep, ok_bind]
      exact ih hrest
    next => cases h

theorem follow_put (hfree : files.Free place) (content : List UInt8) {names : List Text}
    {p q : Location} (h : files.follow p names = .ok q) :
    (files.put place content).follow p names = .ok q :=
  follow_mono (fun p hp => (isFolderAt_put hfree content p).trans hp)
    (fun _ hp => (isAt_put hfree content).2 (.inl hp)) h

theorem follow_of_follow_put (hfree : files.Free place) {content : List UInt8} {names : List Text}
    {p q : Location} (h : (files.put place content).follow p names = .ok q) (hne : q ≠ place) :
    files.follow p names = .ok q := by
  induction names generalizing p with
  | nil => exact h
  | cons name rest ih =>
    rw [follow] at h ⊢
    rw [isFolderAt_put hfree] at h
    split at h
    next hfolder =>
      obtain ⟨next, hstep, hrest⟩ := ok_of_bind h
      have hnext : next ≠ place := by
        rintro rfl
        cases rest with
        | nil => exact hne (Except.ok.inj hrest).symm
        | cons name rest =>
          rw [follow, isFolderAt_put hfree, hfree.not_folder] at hrest
          cases hrest
      -- A new file is the only thing that a name can lead to anew.
      have hback : files.step p name = .ok next :=
        step_congr (fun _ hat => ((isAt_put hfree content).1 hat).resolve_right hnext) hstep
      rw [if_pos hfolder, hback, ok_bind]
      exact ih hrest
    next => cases h

theorem find_put (hfree : files.Free place) (content : List UInt8) {path : Text} {q : Location}
    (h : files.find path = .ok q) : (files.put place content).find path = .ok q := by
  obtain ⟨u, hcheck, h⟩ := ok_of_bind h
  unfold find
  rw [hcheck, ok_bind]
  exact follow_put hfree content h

theorem find_of_find_put (hfree : files.Free place) {content : List UInt8} {path : Text}
    {q : Location} (h : (files.put place content).find path = .ok q) (hne : q ≠ place) :
    files.find path = .ok q := by
  obtain ⟨u, hcheck, h⟩ := ok_of_bind h
  unfold find
  rw [hcheck, ok_bind]
  exact follow_of_follow_put hfree h hne

theorem parent_eq_ok {path : Text} {folder : Location} {name : Text} :
    files.parent path = .ok (folder, name) ↔
      Path.check path = .ok () ∧
        files.follow (files.start path) (Path.names (Path.withoutSlashes path)).dropLast = .ok folder ∧
        files.isFolderAt folder = true ∧
        (Path.names (Path.withoutSlashes path)).getLast?.getD "" = name := by
  unfold parent
  constructor
  · intro h
    obtain ⟨⟨⟩, hcheck, h⟩ := ok_of_bind h
    obtain ⟨found, hfollow, h⟩ := ok_of_bind h
    split at h
    next hfolder =>
      cases h
      exact ⟨hcheck, hfollow, hfolder, rfl⟩
    next => cases h
  · rintro ⟨hcheck, hfollow, hfolder, rfl⟩
    rw [hcheck, ok_bind]
    dsimp only
    rw [hfollow, ok_bind, if_pos hfolder]
    rfl

theorem target_eq_ok {path : Text} {q : Location} :
    files.target path = .ok q ↔
      ∃ folder name, files.parent path = .ok (folder, name) ∧ q = folder ++ [name] ∧
        isRelative name = false ∧ Path.endsInSlash path = false ∧
        ¬ Path.nameLimit < Path.byteLength name ∧ files.isFolderAt (folder ++ [name]) = false := by
  unfold target
  constructor
  · intro h
    obtain ⟨⟨folder, name⟩, hparent, h⟩ := ok_of_bind h
    dsimp only at h
    split at h
    next => cases h
    next hname =>
      split at h
      next => cases h
      next hlength =>
        split at h
        next => cases h
        next hfolder =>
          simp only [Bool.or_eq_true, not_or, Bool.not_eq_true] at hname
          cases h
          exact ⟨folder, name, hparent, rfl, hname.1, hname.2, hlength, by simpa using hfolder⟩
  · rintro ⟨folder, name, hparent, rfl, hrelative, hslash, hlength, hfolder⟩
    rw [hparent, ok_bind]
    dsimp only
    rw [hrelative, hslash, if_neg (by simp), if_neg hlength, if_neg (by simp [hfolder])]
    rfl

/-- Where a path can be written a file may stand. -/
theorem free_of_target {path : Text} (h : files.target path = .ok place) : files.Free place := by
  obtain ⟨folder, name, hparent, rfl, -, -, -, hfolder⟩ := target_eq_ok.1 h
  refine ⟨by simp, ?_, hfolder⟩
  rw [List.dropLast_concat]
  exact (parent_eq_ok.1 hparent).2.2.1

/-- A path that can be written leads to the same place after another file was written. -/
theorem target_put (hfree : files.Free place) (content : List UInt8) {path : Text} {q : Location}
    (h : files.target path = .ok q) : (files.put place content).target path = .ok q := by
  obtain ⟨folder, name, hparent, rfl, hrelative, hslash, hlength, hfolder⟩ := target_eq_ok.1 h
  obtain ⟨hcheck, hfollow, hfound, hname⟩ := parent_eq_ok.1 hparent
  refine target_eq_ok.2 ⟨folder, name, parent_eq_ok.2 ⟨hcheck, follow_put hfree content hfollow, ?_,
    hname⟩, rfl, hrelative, hslash, hlength, ?_⟩
  · rw [isFolderAt_put hfree, hfound]
  · rw [isFolderAt_put hfree, hfolder]

theorem follow_append {p : Location} {a b : List Text} :
    files.follow p (a ++ b) = files.follow p a >>= fun q => files.follow q b := by
  induction a generalizing p with
  | nil => rfl
  | cons name rest ih =>
    rw [List.cons_append, follow, follow]
    cases files.isFolderAt p with
    | false => rfl
    | true =>
      simp only [if_true]
      cases files.step p name with
      | error e => rfl
      | ok next => exact ih

theorem withoutSlashes_eq {path : Text} (h : Path.endsInSlash path = false) :
    Path.withoutSlashes path = path := by
  rcases List.eq_nil_or_concat path with rfl | ⟨init, g, rfl⟩
  · rfl
  · have hg : g ≠ .char '/' := by simpa [Path.endsInSlash] using h
    rw [List.concat_eq_append]
    exact Text.dropEndWhile_concat_of_not (by simpa using hg) init

/-- A file that is there is found by every path by which it can be written. -/
theorem find_of_target {path : Text} (h : files.target path = .ok place)
    (hat : place ∈ files.contents.map Prod.fst) : files.find path = .ok place := by
  obtain ⟨folder, name, hparent, rfl, hrelative, hslash, hlength, hfolder⟩ := target_eq_ok.1 h
  obtain ⟨hcheck, hfollow, hfound, hname⟩ := parent_eq_ok.1 hparent
  rw [withoutSlashes_eq hslash] at hfollow hname
  simp only [isRelative, Bool.or_eq_false_iff, decide_eq_false_iff_not] at hrelative
  obtain ⟨⟨hempty, hdot⟩, hdots⟩ := hrelative
  have hnames : Path.names path = (Path.names path).dropLast ++ [name] := by
    cases hlast : (Path.names path).getLast? with
    | none =>
      rw [hlast] at hname
      exact absurd hname.symm hempty
    | some last =>
      rw [hlast, Option.getD_some] at hname
      rw [← hname, List.dropLast_append_getLast? last hlast]
  have hstep : files.step folder name = .ok (folder ++ [name]) := by
    unfold step
    rw [if_neg (by simp [hempty, hdot]), if_neg hdots, if_neg hlength,
      if_pos (isAt_iff.2 (.inr hat))]
  unfold find
  rw [hcheck, ok_bind, hnames, follow_append, hfollow, ok_bind, follow, if_pos hfound, hstep]
  rfl

theorem mem_of_lookup {content : List UInt8} (h : files.contents.lookup place = some content) :
    place ∈ files.contents.map Prod.fst := by
  have hmem := List.lookup_isSome_iff.1 (Option.isSome_iff_exists.2 ⟨content, h⟩)
  simpa using hmem

/-- A file that was written is found by the path it was written to. -/
theorem find_put_self {path : Text} (h : files.target path = .ok place) (content : List UInt8) :
    (files.put place content).find path = .ok place :=
  find_of_target (target_put (free_of_target h) content h)
    (mem_of_lookup (lookup_put_self files place content))

/-- What is found by a path that can be written stands where it is written. -/
theorem eq_of_find_of_target {path : Text} {q : Location} (hfind : files.find path = .ok q)
    (h : files.target path = .ok place) : q = place :=
  Except.ok.inj ((find_put (free_of_target h) [] hfind).symm.trans (find_put_self h []))

/-- A file that is not there yet has no bytes at the place its path leads to. -/
theorem lookup_eq_none {path : Text} (h : files.target path = .ok place)
    (hmissing : files.exist path = false) : files.contents.lookup place = none := by
  cases hlookup : files.contents.lookup place with
  | none => rfl
  | some content =>
    rw [exist, find_of_target h (mem_of_lookup hlookup)] at hmissing
    cases hmissing

/-! ## Texts in files -/

theorem bytes_of_find {path : Text} {content : List UInt8} (h : files.find path = .ok place)
    (hcontent : files.contents.lookup place = some content) : files.bytes path = .ok content := by
  unfold bytes
  rw [h, ok_bind, hcontent]
  rfl

theorem bytes_of_target {path : Text} {content : List UInt8} (h : files.target path = .ok place)
    (hcontent : files.contents.lookup place = some content) : files.bytes path = .ok content :=
  bytes_of_find (find_of_target h (mem_of_lookup hcontent)) hcontent

theorem text?_eq_none {path : Text} (h : files.exist path = false) : files.text? path = none := by
  unfold text? bytes
  cases hfind : files.find path with
  | error e => rfl
  | ok place =>
    rw [exist, hfind] at h
    cases h

theorem text?_of_target {path s : Text} (hs : Text.Utf8.Whole s) (h : files.target path = .ok place)
    (hcontent : files.contents.lookup place = some (Text.Utf8.bytes s)) :
    files.text? path = some s := by
  unfold text?
  rw [bytes_of_target h hcontent]
  simp only [Text.Utf8.decode_bytes hs]
  rfl

theorem text?_put_self {path s : Text} (hs : Text.Utf8.Whole s) (h : files.target path = .ok place) :
    (files.put place (Text.Utf8.bytes s)).text? path = some s :=
  text?_of_target hs (target_put (free_of_target h) _ h) (lookup_put_self _ _ _)

theorem text?_eq_some {path s : Text} :
    files.text? path = some s ↔ ∃ place content, files.find path = .ok place ∧
      files.contents.lookup place = some content ∧ Text.Utf8.decode content = .ok s := by
  unfold text? bytes
  cases hfind : files.find path with
  | error e => simp [Bind.bind, Except.bind]
  | ok place =>
    rw [ok_bind]
    cases hlookup : files.contents.lookup place with
    | none => simp [hlookup, MonadExcept.throw, throwThe, MonadExceptOf.throw]
    | some content =>
      cases hdecode : Text.Utf8.decode content <;>
        simp [hlookup, hdecode, Pure.pure, Except.pure, Except.toOption]

theorem read_of_text? {path s : Text} (h : files.text? path = some s) :
    files.read path = .ok (Text.unifyNewlines s) := by
  obtain ⟨place, content, hfind, hlookup, hdecode⟩ := text?_eq_some.1 h
  unfold read
  rw [bytes_of_find hfind hlookup]
  simp only [Except.mapError, ok_bind, hdecode]
  rfl

theorem text?_of_read {path text : Text} (h : files.read path = .ok text) :
    ∃ s, files.text? path = some s ∧ Text.unifyNewlines s = text := by
  obtain ⟨content, hcontent, h⟩ := ok_of_bind h
  obtain ⟨s, hs, h⟩ := ok_of_bind h
  refine ⟨s, ?_, Except.ok.inj h⟩
  unfold text?
  rw [ok_of_mapError hcontent]
  simp only [ok_of_mapError hs]
  rfl

theorem canRead_of_text? {path s : Text} (h : files.text? path = some s) :
    files.canRead path = .ok () := by
  obtain ⟨place, content, hfind, hlookup, -⟩ := text?_eq_some.1 h
  unfold canRead
  rw [bytes_of_find hfind hlookup]
  rfl

/-- The text of a file stays when another file is written. -/
theorem text?_put (hfree : files.Free place) (content : List UInt8) {path s : Text}
    (h : files.text? path = some s) (hne : files.find path ≠ .ok place) :
    (files.put place content).text? path = some s := by
  obtain ⟨found, old, hfind, hlookup, hdecode⟩ := text?_eq_some.1 h
  refine text?_eq_some.2 ⟨found, old, find_put hfree content hfind, ?_, hdecode⟩
  rw [lookup_put_of_ne, hlookup]
  rintro rfl
  exact hne hfind

theorem encoded_eq_ok {text : Text} {content : List UInt8} :
    encoded text = .ok content ↔ Text.Utf8.Whole text ∧ content = Text.Utf8.bytes text := by
  rw [← Text.Utf8.encode_eq_ok_iff, encoded]
  cases Text.Utf8.encode text <;> simp [Except.mapError]

/-- A text is written where its path can be written, with `make` of its bytes as the new content. -/
theorem put_encoded_eq_ok (make : Location → List UInt8 → List UInt8) {path text : Text}
    {after : Files} :
    (do
      let place ← (files.target path).mapError (·.fault path)
      let content ← encoded text
      return files.put place (make place content)) = Except.ok after ↔
      ∃ place, files.target path = .ok place ∧ Text.Utf8.Whole text ∧
        after = files.put place (make place (Text.Utf8.bytes text)) := by
  constructor
  · intro h
    obtain ⟨place, htarget, h⟩ := ok_of_bind h
    obtain ⟨content, hcontent, h⟩ := ok_of_bind h
    obtain ⟨hwhole, rfl⟩ := encoded_eq_ok.1 hcontent
    exact ⟨place, ok_of_mapError htarget, hwhole, (Except.ok.inj h).symm⟩
  · rintro ⟨place, htarget, hwhole, rfl⟩
    rw [htarget, encoded_eq_ok.2 ⟨hwhole, rfl⟩]
    rfl

theorem append_eq_ok {path text : Text} {after : Files} :
    files.append path text = .ok after ↔
      ∃ place, files.target path = .ok place ∧ Text.Utf8.Whole text ∧
        after = files.put place ((files.contents.lookup place).getD [] ++ Text.Utf8.bytes text) :=
  put_encoded_eq_ok fun place content => (files.contents.lookup place).getD [] ++ content

theorem write_eq_ok {path text : Text} {after : Files} :
    files.write path text = .ok after ↔
      ∃ place, files.target path = .ok place ∧ Text.Utf8.Whole text ∧
        after = files.put place (Text.Utf8.bytes text) :=
  put_encoded_eq_ok fun _ content => content

/-! ## Handles and pieces -/

theorem create_of_target {path : Text} (h : files.target path = .ok place) :
    files.create path = .ok (⟨place, 0⟩, files.put place []) := by
  unfold create
  rw [h]
  rfl

/-- At the end of a file a handle adds to it. -/
theorem writeAt_end {content : List UInt8} (hcontent : files.contents.lookup place = some content)
    {text : Text} (hwhole : Text.Utf8.Whole text) :
    files.writeAt ⟨place, content.length⟩ text =
      .ok (⟨place, (content ++ Text.Utf8.bytes text).length⟩,
        files.put place (content ++ Text.Utf8.bytes text)) := by
  unfold writeAt
  rw [encoded_eq_ok.2 ⟨hwhole, rfl⟩, ok_bind]
  dsimp only
  rw [hcontent, Option.getD_some, List.take_length,
    List.drop_eq_nil_of_le (Nat.le_add_right _ _), List.append_nil, ← List.length_append]
  rfl

theorem create_eq_ok {path : Text} {h : Handle} {after : Files}
    (hcreate : files.create path = .ok (h, after)) :
    ∃ place, files.target path = .ok place ∧ h = ⟨place, 0⟩ ∧ after = files.put place [] := by
  obtain ⟨place, htarget, hcreate⟩ := ok_of_bind hcreate
  cases hcreate
  exact ⟨place, ok_of_mapError htarget, rfl, rfl⟩

theorem writeAt_eq_ok {h h' : Handle} {text : Text} {after : Files}
    (hwrite : files.writeAt h text = .ok (h', after)) :
    Text.Utf8.Whole text ∧ h'.place = h.place ∧ ∃ content, after = files.put h.place content := by
  obtain ⟨new, hnew, hwrite⟩ := ok_of_bind hwrite
  cases hwrite
  exact ⟨(encoded_eq_ok.1 hnew).1, rfl, _, rfl⟩

theorem encodedPieces_eq {texts : List Text} (hwhole : Text.Utf8.Whole texts.flatten) :
    encodedPieces (texts.map .ok) = (Text.Utf8.bytes texts.flatten, .ok ()) := by
  induction texts with
  | nil => rfl
  | cons text rest ih =>
    have htext : encoded text = .ok (Text.Utf8.bytes text) :=
      encoded_eq_ok.2 ⟨fun g hg => hwhole g (List.mem_append_left _ hg), rfl⟩
    rw [List.map_cons, encodedPieces, ok_bind, htext,
      ih fun g hg => hwhole g (List.mem_append_right _ hg)]
    simp [Text.Utf8.bytes]

theorem encodedPieces_ok {pieces : List (Except Fault Text)} (h : (encodedPieces pieces).2 = .ok ()) :
    ∃ texts : List Text, pieces = texts.map .ok ∧ Text.Utf8.Whole texts.flatten := by
  induction pieces with
  | nil => exact ⟨[], rfl, by simp [Text.Utf8.Whole]⟩
  | cons piece rest ih =>
    rw [encodedPieces] at h
    split at h
    next => cases h
    next bytes hbytes =>
      obtain ⟨text, rfl, hencoded⟩ := ok_of_bind hbytes
      obtain ⟨texts, rfl, hwhole⟩ := ih h
      exact ⟨text :: texts, rfl, List.forall_mem_append.2 ⟨(encoded_eq_ok.1 hencoded).1, hwhole⟩⟩

theorem writePieces_of_target {path : Text} (h : files.target path = .ok place) {texts : List Text}
    (hwhole : Text.Utf8.Whole texts.flatten) :
    files.writePieces path (texts.map .ok) =
      (files.put place (Text.Utf8.bytes texts.flatten), .ok ()) := by
  unfold writePieces
  rw [h, encodedPieces_eq hwhole]

theorem writePieces_eq_ok {path : Text} {pieces : List (Except Fault Text)} {after : Files}
    (h : files.writePieces path pieces = (after, .ok ())) :
    ∃ (place : Location) (texts : List Text), files.target path = .ok place ∧
      pieces = texts.map .ok ∧ Text.Utf8.Whole texts.flatten ∧
      after = files.put place (Text.Utf8.bytes texts.flatten) := by
  cases htarget : files.target path with
  | error e =>
    rw [writePieces, htarget] at h
    cases h
  | ok place =>
    have hpieces : (encodedPieces pieces).2 = .ok () := by
      rw [writePieces, htarget] at h
      exact congrArg Prod.snd h
    obtain ⟨texts, rfl, hwhole⟩ := encodedPieces_ok hpieces
    rw [writePieces_of_target htarget hwhole] at h
    exact ⟨place, texts, rfl, rfl, hwhole, (congrArg Prod.fst h).symm⟩

end

/-! ## Files that differ in their bytes -/

/-- Are the same folders and files there? -/
structure SameShape (a b : Files) : Prop where
  base : a.base = b.base
  folders : a.folders = b.folders
  places : a.contents.map Prod.fst = b.contents.map Prod.fst

theorem sameShape_put (files : Files) (place : Location) (x y : List UInt8) :
    SameShape (files.put place x) (files.put place y) :=
  ⟨rfl, rfl, putContent_keys rfl place x y⟩

theorem sameShape_put_lookup {files : Files} {place : Location} {old : List UInt8}
    (h : files.contents.lookup place = some old) (new : List UInt8) :
    SameShape files (files.put place new) := by
  have hput := sameShape_put files place old new
  rwa [put_lookup h] at hput

theorem sameShape_put_mem {files : Files} {place : Location} (h : place ∈ files.contents.map Prod.fst)
    (new : List UInt8) : SameShape files (files.put place new) := by
  have hsome : (files.contents.lookup place).isSome = true :=
    List.lookup_isSome_iff.2 (by simpa using h)
  obtain ⟨old, hold⟩ := Option.isSome_iff_exists.1 hsome
  exact sameShape_put_lookup hold new

namespace SameShape
variable {a b : Files}

theorem refl (a : Files) : SameShape a a :=
  ⟨rfl, rfl, rfl⟩

theorem symm (h : SameShape a b) : SameShape b a :=
  ⟨h.base.symm, h.folders.symm, h.places.symm⟩

theorem put (h : SameShape a b) (place : Location) (x y : List UInt8) :
    SameShape (a.put place x) (b.put place y) :=
  ⟨h.base, h.folders, putContent_keys h.places place x y⟩

theorem trans {c : Files} (hab : SameShape a b) (hbc : SameShape b c) : SameShape a c where
  base := hab.base.trans hbc.base
  folders := hab.folders.trans hbc.folders
  places := hab.places.trans hbc.places

theorem isFolderAt (h : SameShape a b) (p : Location) : a.isFolderAt p = b.isFolderAt p := by
  rw [Bool.eq_iff_iff, isFolderAt_iff, isFolderAt_iff, h.base, h.folders, h.places]

theorem isAt (h : SameShape a b) (p : Location) : a.isAt p = b.isAt p := by
  rw [Bool.eq_iff_iff, isAt_iff, isAt_iff, h.isFolderAt, h.places]

theorem follow (h : SameShape a b) (p : Location) (names : List Text) :
    a.follow p names = b.follow p names := by
  induction names generalizing p with
  | nil => rfl
  | cons name rest ih =>
    have hstep : a.step p name = b.step p name := by
      unfold Files.step
      rw [h.isAt]
    rw [Files.follow, Files.follow, h.isFolderAt, hstep]
    simp only [ih]

theorem find (h : SameShape a b) (path : Text) : a.find path = b.find path := by
  unfold Files.find Files.start
  rw [h.base]
  simp only [h.follow]

theorem parent (h : SameShape a b) (path : Text) : a.parent path = b.parent path := by
  unfold Files.parent Files.start
  rw [h.base]
  simp only [h.follow, h.isFolderAt]

theorem target (h : SameShape a b) (path : Text) : a.target path = b.target path := by
  unfold Files.target
  rw [h.parent]
  simp only [h.isFolderAt]

theorem below (h : SameShape a b) : a.below = b.below := by
  have hmap (files : Files) : files.below = (files.contents.map Prod.fst).filterMap fun place =>
      if files.base.isPrefixOf place then some (place.drop files.base.length) else none := by
    rw [List.filterMap_map]
    rfl
  rw [hmap, hmap, h.base, h.places]

end SameShape

end QueryBench.Files
