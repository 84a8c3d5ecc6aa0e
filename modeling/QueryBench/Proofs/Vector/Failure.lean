import QueryBench.Proofs.Vector.Building

/-!
# Builds that fail

A column has its collection made anew before anything is looked up for it; only its name is taken apart
earlier. So a build that fails at a column leaves the collection of this column empty, unless the name
gives none or the backend refuses to make it: then there is none. The columns before it have theirs,
and everything else in the store is as it was.

Main definitions: `Spares`, for what leaves a store alone, `StopsAt`, for columns of which one fails,
and `Emptied`, for what is left of that one. Main statement: `failed_build_empties`.
-/
set_option autoImplicit false

namespace QueryBench.Vector

/-! ## Looking up collections -/

theorem lookup_without {name : Text} {names : List Text} (h : name ∉ names) (contents : Contents) :
    (contents.without names).lookup name = contents.lookup name :=
  Contents.lookup_filter (fun _ => decide_eq_true h) contents

theorem lookup_dropped (contents : Contents) (name : Text) :
    (contents.filter (·.1 ≠ name)).lookup name = none := by
  rw [List.lookup_eq_none_iff]
  intro c hc
  have hne : c.1 ≠ name := by simpa using (List.mem_filter.1 hc).2
  simpa using hne.symm

theorem lookup_place (contents : Contents) (name : Text) (items : List Item) :
    (contents.place (name, items)).lookup name = some items := by
  have hdropped := lookup_dropped contents name
  rw [Contents.place, List.lookup_append, hdropped, Option.none_or, List.lookup_cons_self]

/-! ## Steps that ask nothing of a store -/

section
variable {σ α β : Type} {b : Backend σ} {x : Building σ α} {f : α → Building σ β}

/-- Nothing was asked of the store. -/
structure Unasked (s s' : BuildState σ) : Prop where
  calls : s'.calls = s.calls
  store : s'.store = s.store

theorem Unasked.trans {s₁ s₂ s₃ : BuildState σ} (h : Unasked s₁ s₂) (h' : Unasked s₂ s₃) :
    Unasked s₁ s₃ :=
  ⟨h'.calls.trans h.calls, h'.store.trans h.store⟩

/-- However the computation ends, nothing is asked of the store. -/
def Spares (act : Building σ α) : Prop :=
  ∀ s, Unasked s (runIn act s).2

/-- Where the computation fails, the store shows what it showed before. -/
def KeepsFailing (b : Backend σ) (act : Building σ α) : Prop :=
  ∀ s fault s', runIn act s = (.error fault, s') → b.contents s'.store = b.contents s.store

namespace Spares

theorem pure (a : α) : Spares (Pure.pure a : Building σ α) :=
  fun _ => ⟨rfl, rfl⟩

theorem lift (r : Except Fault α) : Spares (liftM r : Building σ α) :=
  fun _ => ⟨rfl, rfl⟩

theorem throw (fault : Fault) : Spares (MonadExcept.throw fault : Building σ α) :=
  fun _ => ⟨rfl, rfl⟩

theorem note (line : Text) : Spares (note line : Building σ Unit) :=
  fun _ => ⟨rfl, rfl⟩

theorem run {s s' : BuildState σ} {r : Except Fault α} (hx : Spares x) (h : runIn x s = (r, s')) :
    Unasked s s' := by
  have hs := hx s
  rwa [h] at hs

theorem bind (hx : Spares x) (hf : ∀ a, Spares (f a)) : Spares (x >>= f) := by
  intro s
  rw [run_bind]
  rcases hrun : runIn x s with ⟨fault | a, t⟩
  · exact hx.run hrun
  · exact (hx.run hrun).trans (hf a t)

/-- A failure comes from the first step, or from the others in the same store. -/
theorem failing_bind (hx : Spares x) {s s' : BuildState σ} {fault : Fault}
    (h : runIn (x >>= f) s = (.error fault, s')) :
    Unasked s s' ∨ ∃ a t, runIn x s = (.ok a, t) ∧ Unasked s t ∧ runIn (f a) t = (.error fault, s') := by
  rcases run_bind_error h with hfirst | ⟨a, t, hfirst, hrest⟩
  · exact .inl (hx.run hfirst)
  · exact .inr ⟨a, t, hfirst, hx.run hfirst, hrest⟩

theorem keepsFailing (hx : Spares x) (hf : ∀ a, KeepsFailing b (f a)) : KeepsFailing b (x >>= f) := by
  intro s fault s' h
  rcases hx.failing_bind h with hsame | ⟨a, t, -, ht, hrest⟩
  · rw [hsame.store]
  · rw [hf a t fault s' hrest, ht.store]

end Spares

theorem spares_occurring (db : Database) (table column : Text) :
    Spares (occurring db table column : Building σ (List Entry)) :=
  (Spares.note _).bind fun _ => (Spares.note _).bind fun _ => (Spares.lift _).bind fun _ =>
    (Spares.lift _).bind fun _ => .pure _

theorem spares_entriesOf (db : Database) (meanings : Doc) (table column : Text) :
    Spares (entriesOf db meanings table column : Building σ (List Entry)) := by
  unfold entriesOf
  split
  next => exact (Spares.note _).bind fun _ => .pure _
  next => exact spares_occurring db table column

/-- A batch that is refused leaves the store as it was. -/
theorem keepsFailing_store (laws : b.Lawful) (name : Text) (entries : List Entry) :
    KeepsFailing b (store b name entries) := by
  intro s fault s' h
  cases entries with
  | nil => cases h
  | cons e entries =>
    rcases run_bind_error h with hcall | ⟨_, _, -, hnote⟩
    · rcases call_cases b (.add name (Batch.ofEntries (e :: entries))) s with
        ⟨_, -, hok⟩ | ⟨_, store, hanswer, herror⟩
      · cases (Prod.ext_iff.1 (hcall.symm.trans hok)).1
      · obtain ⟨-, rfl⟩ := Prod.ext_iff.1 (hcall.symm.trans herror)
        exact laws.contents_refused hanswer
    · cases hnote

end

/-! ## The column at which a build fails -/

section
variable {σ : Type} {b : Backend σ} {db : Database} {s s' : BuildState σ} {fault : Fault}

/-- Was a collection of this name not to be made, for this reason? -/
def Refuses (b : Backend σ) (name : Text) (fault : Fault) : Prop :=
  ∃ store store', b.answer (.create name) store = (.error fault, store')

/-- A column that fails has no collection, because its name gives none or the store refuses to make
it, or an empty one. -/
theorem buildColumn_fails (laws : b.Lawful) {mappings column : Doc}
    (h : runIn (buildColumn b db mappings column) s = (.error fault, s')) :
    nameFor column = .error fault ∧ b.contents s'.store = b.contents s.store ∨
      ∃ name, nameFor column = .ok name ∧
        (Refuses b name fault ∧
            b.contents s'.store = (b.contents s.store).filter (·.1 ≠ name) ∨
          b.contents s'.store = (b.contents s.store).place (name, [])) := by
  rcases run_bind_error h with hunsplit | ⟨⟨table, part⟩, s₁, hparts, h₁⟩
  · have hsplit : splitName column = .error fault := congrArg Prod.fst hunsplit
    exact .inl ⟨by rw [nameFor, hsplit]; rfl, by rw [((Spares.lift _).run hunsplit).store]⟩
  · obtain ⟨hsplit, rfl⟩ := run_lift_ok hparts
    refine .inr ⟨table ++ "_" ++ part, by rw [nameFor, hsplit]; rfl, ?_⟩
    rcases run_bind_error h₁ with hnote | ⟨_, s₂, hnote, h₂⟩
    · cases hnote
    obtain ⟨u, -, hu, hrecreate⟩ := run_recreate laws (table ++ "_" ++ part) s₂
    rw [((Spares.note _).run hnote).store] at hu
    rcases call_cases b (.create (table ++ "_" ++ part)) u with
      ⟨made, hanswer, hcall⟩ | ⟨reason, left, hanswer, hcall⟩
    · rcases run_bind_error h₂ with hfailed | ⟨_, s₃, hmade, h₃⟩
      · cases (Prod.ext_iff.1 (hfailed.symm.trans (hrecreate.trans hcall))).1
      obtain ⟨-, rfl⟩ := Prod.ext_iff.1 (hmade.symm.trans (hrecreate.trans hcall))
      -- From here on only a batch is asked of the store, and one that is refused leaves it alone.
      have hrest := (Spares.lift _).keepsFailing (fun meanings =>
        (Spares.note _).keepsFailing fun _ => (Spares.note _).keepsFailing fun _ =>
          (spares_entriesOf db meanings table part).keepsFailing (keepsFailing_store laws _))
        _ fault s' h₃
      refine .inr ?_
      rw [hrest, laws.contents_create hanswer, hu]
      rfl
    · rcases run_bind_error h₂ with hfailed | ⟨_, s₃, hmade, -⟩
      · obtain ⟨hreason, rfl⟩ := Prod.ext_iff.1 (hfailed.symm.trans (hrecreate.trans hcall))
        cases hreason
        exact .inl ⟨⟨_, _, hanswer⟩, (laws.contents_refused hanswer).trans hu⟩
      · cases (Prod.ext_iff.1 (hmade.symm.trans (hrecreate.trans hcall))).1

/-- The columns before one are built, and this one fails. -/
def StopsAt (b : Backend σ) (db : Database) (mappings : Doc) (earlier : List Doc) (failing : Doc)
    (s : BuildState σ) (fault : Fault) (s' : BuildState σ) : Prop :=
  ∃ t, runIn (earlier.forM (buildColumn b db mappings)) s = (.ok (), t) ∧
    runIn (buildColumn b db mappings failing) t = (.error fault, s')

/-- A build fails before it comes to the columns, or at one of them. -/
theorem build_fails {description : Doc} (h : runIn (build b db description) s = (.error fault, s')) :
    Unasked s s' ∨ ∃ mappings earlier failing later t,
      description.memberD "value_mappings" (.record []) = .ok mappings ∧
      columnsOf description = .ok (earlier ++ failing :: later) ∧ Unasked s t ∧
      StopsAt b db mappings earlier failing t fault s' := by
  rcases (Spares.lift _).failing_bind h with hsame | ⟨columns, s₁, hcolumns, hs₁, h₁⟩
  · exact .inl hsame
  rcases (Spares.note _).failing_bind h₁ with hsame | ⟨_, s₂, -, hs₂, h₂⟩
  · exact .inl (hs₁.trans hsame)
  have hs₂ := hs₁.trans hs₂
  rcases (Spares.lift _).failing_bind h₂ with hsame | ⟨mappings, s₃, hmappings, hs₃, h₃⟩
  · exact .inl (hs₂.trans hsame)
  have hs₃ := hs₂.trans hs₃
  cases hconnect : db.connectError with
  | some message =>
    rw [hconnect] at h₃
    rcases (Spares.throw _).failing_bind h₃ with hsame | ⟨_, _, hthrown, -⟩
    · exact .inl (hs₃.trans hsame)
    · cases hthrown
  | none =>
    rw [hconnect] at h₃
    rcases (Spares.lift _).failing_bind h₃ with hsame | ⟨count, s₄, -, hs₄, h₄⟩
    · exact .inl (hs₃.trans hsame)
    have hs₄ := hs₃.trans hs₄
    rcases (Spares.note _).failing_bind h₄ with hsame | ⟨_, s₅, -, hs₅, h₅⟩
    · exact .inl (hs₄.trans hsame)
    have hs₅ := hs₄.trans hs₅
    rcases (Spares.lift _).failing_bind h₅ with hsame | ⟨names, s₆, hnames, hs₆, h₆⟩
    · exact .inl (hs₅.trans hsame)
    rcases run_bind_error h₆ with hloop | ⟨_, s₇, -, hlast⟩
    · obtain ⟨earlier, failing, later, t, rfl, hearlier, hfailing⟩ := run_forM_error hloop
      refine .inr ⟨mappings, earlier, failing, later, s₆, (run_lift_ok hmappings).1, ?_,
        hs₅.trans hs₆, t, hearlier, hfailing⟩
      rw [columnsOf, (run_lift_ok hcolumns).1, ok_bind]
      exact (run_lift_ok hnames).1
    · cases hlast

/-- What the store holds for a column that fails: its name gives no collection, or the store refused
to make one and there is none, or there is an empty one. -/
def Emptied (b : Backend σ) (column : Doc) (fault : Fault) (contents : Contents) : Prop :=
  nameFor column = .error fault ∨ ∃ name, nameFor column = .ok name ∧
    (Refuses b name fault ∧ contents.lookup name = none ∨ contents.lookup name = some [])

/-- What columns of which one fails leave in a store. -/
theorem StopsAt.contents (laws : b.Lawful) {mappings failing : Doc} {earlier : List Doc}
    (h : StopsAt b db mappings earlier failing s fault s') :
    ∃ names, earlier.mapM nameFor = .ok names ∧ Emptied b failing fault (b.contents s'.store) ∧
      ∀ name ∉ names, nameFor failing ≠ .ok name →
        (b.contents s'.store).lookup name = (b.contents s.store).lookup name := by
  obtain ⟨t, hearlier, hfailing⟩ := h
  obtain ⟨change, ⟨built, hbuilt, rfl⟩, hchange⟩ :=
    changes_columns laws db mappings earlier s () t trivial hearlier
  obtain ⟨_, ht, -, hcontents⟩ := hchange s trivial
  cases hearlier.symm.trans ht
  have hkept (name : Text) (hname : name ∉ built.map Prod.fst) :
      (b.contents t.store).lookup name = (b.contents s.store).lookup name := by
    have hwithout : (built.foldl Contents.place (b.contents s.store)).without (built.map Prod.fst) =
        (b.contents s.store).without (built.map Prod.fst) :=
      without_foldl_place (fun c hc => List.mem_map_of_mem hc) _
    rw [← lookup_without hname (b.contents t.store), hcontents, hwithout, lookup_without hname]
  refine ⟨built.map Prod.fst, names_of_fills hbuilt, ?_⟩
  rcases buildColumn_fails laws hfailing with
    ⟨hnone, hsame⟩ | ⟨failed, hfailed, ⟨hrefused, hdropped⟩ | hplaced⟩
  · exact ⟨.inl hnone, fun name hname _ => by rw [hsame, hkept name hname]⟩
  · refine ⟨.inr ⟨failed, hfailed, .inl ⟨hrefused, by rw [hdropped, lookup_dropped]⟩⟩,
      fun name hname hother => ?_⟩
    have hne : name ≠ failed := fun heq => hother (heq ▸ hfailed)
    rw [hdropped, Contents.lookup_filter (fun _ => decide_eq_true hne), hkept name hname]
  · refine ⟨.inr ⟨failed, hfailed, .inr (by rw [hplaced, lookup_place])⟩, fun name hname hother => ?_⟩
    have hne : name ∉ [failed] := fun hmem => hother (List.mem_singleton.1 hmem ▸ hfailed)
    rw [hplaced, ← lookup_without hne, without_place (List.mem_singleton_self _), lookup_without hne,
      hkept name hname]

/-- A build that fails asked nothing of the store, or it failed at a column, with those before it built.
Then the collection of this column is empty, or there is none if its name gives none or the store
refused to make it, and the collections of all other names than those of the columns built are as they
were. -/
theorem failed_build_empties (laws : b.Lawful) {description : Doc}
    (hrun : runIn (build b db description) s = (.error fault, s')) :
    Unasked s s' ∨ ∃ mappings earlier failing later t names,
      description.memberD "value_mappings" (.record []) = .ok mappings ∧
      columnsOf description = .ok (earlier ++ failing :: later) ∧
      Unasked s t ∧ StopsAt b db mappings earlier failing t fault s' ∧
      earlier.mapM nameFor = .ok names ∧ Emptied b failing fault (b.contents s'.store) ∧
      ∀ name ∉ names, nameFor failing ≠ .ok name →
        (b.contents s'.store).lookup name = (b.contents s.store).lookup name := by
  rcases build_fails hrun with hsame | ⟨mappings, earlier, failing, later, t, hmappings, hcolumns, ht, hstop⟩
  · exact .inl hsame
  · obtain ⟨names, hnames, hfailed, hkept⟩ := hstop.contents laws
    rw [ht.store] at hkept
    exact .inr ⟨mappings, earlier, failing, later, t, names, hmappings, hcolumns, ht, hstop, hnames,
      hfailed, hkept⟩

end

/-- A store with a collection for each of these columns. -/
def threeStore : BuildState Contents where
  console := ""
  calls := []
  store := [("district_A2", []), ("loan_status", [Entry.item ⟨"C", .text "running"⟩]),
    ("loan_last status", [Entry.item ⟨"D", .text "in debt"⟩]),
    ("card_type", [Entry.item ⟨"gold", .text "gold"⟩])]

/-- The names of the collections that a backend shows, and the ids that each of them holds. -/
def shownIds (s : BuildState Contents) : List (Text × List Text) :=
  (plainNames.contents s.store).map fun c => (c.1, c.2.map Item.id)

/-- The middle one of three columns fails: its values cannot be had, or its name has a blank. With each
of them what is shown then. -/
def failingColumns : List (Doc × List (Text × List Text)) :=
  [(.text "loan.status", [("loan_last status", ["D"]), ("card_type", ["gold"]),
      ("district_A2", ["Praha", "Brno"]), ("loan_status", [])]),
    (.text "loan.last status", [("loan_status", ["C"]), ("card_type", ["gold"]),
      ("district_A2", ["Praha", "Brno"])])]

/-- Three columns without meanings, the middle one given. -/
def threeColumns (middle : Doc) : Doc :=
  .record [("text_columns", .list [.text "district.A2", middle, .text "card.type"])]

theorem failingRuns : ∀ c ∈ failingColumns,
    (runIn (build plainNames bank (threeColumns c.1)) threeStore).1.isOk = false ∧
    shownIds (runIn (build plainNames bank (threeColumns c.1)) threeStore).2 = c.2 ∧
    shownIds threeStore ≠ c.2 := by
  decide +kernel

theorem failed_build_empties_three : plainNames.Lawful ∧ ∀ c ∈ failingColumns, ∃ fault s',
    runIn (build plainNames bank (threeColumns c.1)) threeStore = (.error fault, s') ∧
    shownIds s' = c.2 ∧
    ∃ earlier failing later names,
      columnsOf (threeColumns c.1) = .ok (earlier ++ failing :: later) ∧
      earlier.mapM nameFor = .ok names ∧
      Emptied plainNames failing fault (plainNames.contents s'.store) ∧
      ∀ name ∉ names, nameFor failing ≠ .ok name → (plainNames.contents s'.store).lookup name =
        (plainNames.contents threeStore.store).lookup name := by
  refine ⟨Contents.lawful_backend _, fun c hc => ?_⟩
  obtain ⟨hfailed, hids, hchanged⟩ := failingRuns c hc
  rcases hrun : runIn (build plainNames bank (threeColumns c.1)) threeStore with ⟨fault | u, s'⟩
  · rw [hrun] at hids
    refine ⟨fault, s', rfl, hids, ?_⟩
    rcases failed_build_empties (Contents.lawful_backend _) hrun with hsame |
      ⟨_, earlier, failing, later, _, names, -, hcolumns, -, -, hnames, hempty, hkept⟩
    · refine absurd ?_ hchanged
      rw [← hids, shownIds, shownIds, hsame.store]
    · exact ⟨earlier, failing, later, names, hcolumns, hnames, hempty, hkept⟩
  · rw [hrun] at hfailed
    cases hfailed

/-- One column, without meanings. -/
def loanColumn : Doc :=
  .record [("text_columns", .list [.text "loan.status"])]

theorem loanRun : (runIn (build plainNames bank loanColumn) bankStore).1.isOk = false ∧
    ((plainNames.contents bankStore.store).lookup (Text.ofString "loan_status")).map (·.map Item.id) =
      some [Text.ofString "C"] ∧
    ((plainNames.contents (runIn (build plainNames bank loanColumn) bankStore).2.store).lookup
      (Text.ofString "loan_status")).map (·.map Item.id) = some [] := by
  decide +kernel

/-- The values of `loan.status` cannot be had, and what its collection held is lost. -/
theorem failed_build_loses : ∃ fault s',
    runIn (build plainNames bank loanColumn) bankStore = (.error fault, s') ∧
    (∃ mappings t, StopsAt plainNames bank mappings [] (.text "loan.status") t fault s') ∧
    nameFor (.text "loan.status") = .ok "loan_status" ∧
    ((plainNames.contents bankStore.store).lookup (Text.ofString "loan_status")).map (·.map Item.id) =
      some [Text.ofString "C"] ∧
    ((plainNames.contents s'.store).lookup (Text.ofString "loan_status")).map (·.map Item.id) =
      some [] := by
  obtain ⟨hfailed, hbefore, hafter⟩ := loanRun
  rcases hrun : runIn (build plainNames bank loanColumn) bankStore with ⟨fault | u, s'⟩
  · rw [hrun] at hafter
    refine ⟨fault, s', rfl, ?_, rfl, hbefore, hafter⟩
    rcases build_fails hrun with hsame | ⟨mappings, earlier, failing, later, t, -, hcolumns, -, hstop⟩
    · rw [hsame.store, hbefore] at hafter
      cases hafter
    · have hone : [Doc.text "loan.status"] = earlier ++ failing :: later := Except.ok.inj hcolumns
      cases earlier with
      | nil =>
        cases hone
        exact ⟨mappings, t, hstop⟩
      | cons first rest =>
        have hlength := congrArg List.length hone
        simp at hlength
  · rw [hrun] at hfailed
    cases hfailed

end QueryBench.Vector
