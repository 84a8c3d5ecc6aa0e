import QueryBench.Dataset.Basic
import QueryBench.Proofs.Outcome

/-!
# Rows of a dataset

A dataset that was read is level: its columns have one length. Appending datasets keeps that. Therefore
what is done column by column can be told row by row: the rows chosen by a column are the rows that
have such a cell, in their order, and setting a column changes one cell of each row.

Main definition: `Dataset.Level`. Main statements: `Dataset.level_read`, `Dataset.Level.append`,
`Dataset.rows_filterBy`, `Dataset.column?_setTexts`.
-/
set_option autoImplicit false

namespace QueryBench

/-! ## Lengths of columns -/

namespace Column

theorem length_settle {values : List Doc} {c : Column} (h : settle values = .ok c) :
    c.cells.length = values.length := by
  obtain ⟨form, -, h⟩ := ok_of_bind h
  cases h
  dsimp only
  split
  · exact List.length_map _
  · rfl

theorem length_ofList {values : List Doc} {c : Column} (h : ofList values = .ok c) :
    c.cells.length = values.length := by
  cases values with
  | nil =>
    cases h
    rfl
  | cons v values => exact length_settle h

theorem length_of_mapM {α β : Type} {f : α → Option β} {xs : List α} {ys : List β}
    (h : xs.mapM f = some ys) : ys.length = xs.length := by
  induction xs generalizing ys with
  | nil =>
    cases h
    rfl
  | cons x xs ih =>
    rw [List.mapM_cons] at h
    obtain ⟨y, -, h⟩ := Option.bind_eq_some_iff.1 h
    obtain ⟨rest, hrest, h⟩ := Option.bind_eq_some_iff.1 h
    cases h
    rw [List.length_cons, List.length_cons, ih hrest]

theorem length_refine (c : Column) : c.refine.cells.length = c.cells.length := by
  have hnumbers {numbers : List Float} {cells : List Doc}
      (hread : c.cells.mapM readReal? = some numbers)
      (hcells : cells = numbers.map Doc.real ∨
        ∃ wholes, numbers.mapM whole? = some wholes ∧ cells = wholes.map Doc.int) :
      cells.length = c.cells.length := by
    obtain rfl | ⟨wholes, hwhole, rfl⟩ := hcells
    · rw [List.length_map, length_of_mapM hread]
    · rw [List.length_map, length_of_mapM hwhole, length_of_mapM hread]
  unfold refine
  split
  case h_3 => rfl
  all_goals
    split
    · rfl
    · rename_i numbers hread
      dsimp only
      split
      · exact hnumbers hread (.inl rfl)
      · split
        · rename_i wholes hwhole
          exact hnumbers hread (.inr ⟨wholes, hwhole, rfl⟩)
        · exact hnumbers hread (.inl rfl)

theorem length_append (a b : Column) :
    (a.append b).cells.length = a.cells.length + b.cells.length := by
  rw [← List.length_append]
  unfold append
  dsimp only
  split <;> first | rfl | exact List.length_map _

theorem length_extend (c : Column) (before after : Nat) :
    (c.extend before after).cells.length = before + c.cells.length + after := by
  unfold extend
  dsimp only
  rw [List.length_append, List.length_append, List.length_replicate, List.length_replicate,
    apply_ite List.length, List.length_map, ite_self]

end Column

/-! ## Level datasets -/

namespace Dataset

/-- Have all columns a cell for every row? -/
def Level (d : Dataset) : Prop :=
  ∀ c ∈ d.columns, c.2.cells.length = d.size

theorem level_empty : empty.Level :=
  List.forall_mem_nil _

section
variable {d : Dataset}

theorem level_of_mapM {α : Type} {items : List α} {size : Nat}
    {make : α → Except Fault (Label × Column)}
    (hmake : ∀ a ∈ items, ∀ c, make a = .ok c → c.2.cells.length = size)
    (h : (items.mapM make >>= fun columns => .ok ⟨size, columns⟩) = .ok d) : d.Level := by
  obtain ⟨columns, hcolumns, h⟩ := ok_of_bind h
  cases h
  exact forall_mem_of_forall₂ (mapM_eq_ok_iff.1 hcolumns) hmake

theorem level_ofFields {rows : List (List (Text × Doc))} (h : ofFields rows = .ok d) : d.Level := by
  refine level_of_mapM (fun name _ c hc => ?_) h
  obtain ⟨column, hsettle, hc⟩ := ok_of_bind hc
  cases hc
  rw [Column.length_settle hsettle, List.length_map]

theorem level_ofLists {items : List Doc} (h : ofLists items = .ok d) : d.Level := by
  obtain ⟨widths, -, h⟩ := ok_of_bind h
  obtain ⟨rows, hrows, h⟩ := ok_of_bind h
  refine level_of_mapM (fun i _ c hc => ?_) h
  obtain ⟨column, hsettle, hc⟩ := ok_of_bind hc
  cases hc
  rw [Column.length_settle hsettle, List.length_map, (mapM_eq_ok_iff.1 hrows).length_eq]

theorem level_ofValues {items : List Doc} (h : ofValues items = .ok d) : d.Level := by
  obtain ⟨column, hsettle, h⟩ := ok_of_bind h
  cases h
  refine List.forall_mem_singleton.2 ?_
  rw [Column.length_settle hsettle]

/-- Lists that fill the columns of a record have one length. -/
theorem length_of_listedRows {columns : List (Text × Doc)} {n : Nat}
    (h : listedRows columns = .ok (some n)) {name : Text} {cells : List Doc}
    (hmem : (name, Doc.list cells) ∈ columns) : cells.length = n := by
  unfold listedRows at h
  split at h
  · cases h
  · rename_i m more heq
    have hlength : cells.length ∈ m :: more := by
      rw [← heq]
      exact List.mem_filterMap.2 ⟨_, hmem, rfl⟩
    split at h
    · rename_i hall
      cases h
      obtain hfirst | hmore := List.mem_cons.1 hlength
      · exact hfirst
      · exact of_decide_eq_true (List.all_eq_true.1 hall _ hmore)
    · cases h

theorem not_list_of_listedRows {columns : List (Text × Doc)} (h : listedRows columns = .ok none)
    {name : Text} {cells : List Doc} : (name, Doc.list cells) ∉ columns := by
  intro hmem
  unfold listedRows at h
  split at h
  · rename_i heq
    have hnone := List.filterMap_eq_nil_iff.1 heq _ hmem
    cases hnone
  · split at h <;> cases h

theorem not_record_of_namedRows {columns : List (Text × Doc)} (h : namedRows columns = none)
    {name : Text} {cells : List (Text × Doc)} : (name, Doc.record cells) ∉ columns := by
  intro hmem
  unfold namedRows at h
  split at h
  · rename_i heq
    have hnone := List.filterMap_eq_nil_iff.1 heq _ hmem
    cases hnone
  · cases h

theorem level_ofColumns {columns : List (Text × Doc)} (h : ofColumns columns = .ok d) : d.Level := by
  obtain ⟨listed, hlisted, h⟩ := ok_of_bind h
  extract_lets named make at h
  -- either lists or names of rows say how many rows there are, and never both
  have hsize : ∃ size, make size = .ok d ∧
      (∀ name cells, (name, Doc.list cells) ∈ columns → cells.length = size) ∧
      ∀ name cells, (name, Doc.record cells) ∈ columns → (named.getD []).length = size := by
    cases listed with
    | none =>
      have hlists {size : Nat} (name : Text) (cells : List Doc)
          (hmem : (name, Doc.list cells) ∈ columns) : cells.length = size :=
        absurd hmem (not_list_of_listedRows hlisted)
      obtain hnamed | ⟨names, hnamed⟩ := Option.eq_none_or_eq_some named
      · rw [hnamed] at h
        cases h
      · rw [hnamed] at h ⊢
        exact ⟨names.length, h, hlists, fun _ _ _ => rfl⟩
    | some n =>
      obtain hnamed | ⟨names, hnamed⟩ := Option.eq_none_or_eq_some named
      · rw [hnamed] at h
        exact ⟨n, h, fun _ _ hmem => length_of_listedRows hlisted hmem,
          fun _ _ hmem => absurd hmem (not_record_of_namedRows hnamed)⟩
      · rw [hnamed] at h
        cases h
  obtain ⟨size, hmake, hlists, hrecords⟩ := hsize
  refine level_of_mapM ?_ hmake
  rintro ⟨name, content⟩ hmem c hc
  cases content with
  | list cells =>
    obtain ⟨column, hcolumn, hc⟩ := ok_of_bind hc
    cases hc
    exact (Column.length_ofList hcolumn).trans (hlists name cells hmem)
  | record cells =>
    obtain ⟨column, hcolumn, hc⟩ := ok_of_bind hc
    cases hc
    rw [Column.length_ofList hcolumn, List.length_map]
    exact hrecords name cells hmem
  | _ =>
    cases hc
    exact List.length_replicate

theorem level_ofDoc {doc : Doc} (h : ofDoc doc = .ok d) : d.Level := by
  cases doc with
  | null =>
    cases h
    exact level_empty
  | list items =>
    cases items with
    | nil =>
      cases h
      exact level_empty
    | cons first rest =>
      cases first with
      | record fields =>
        obtain ⟨rows, -, h⟩ := ok_of_bind h
        exact level_ofFields h
      | list items => exact level_ofLists h
      | _ => exact level_ofValues h
  | record columns =>
    cases columns with
    | nil =>
      cases h
      exact level_empty
    | cons c rest => exact level_ofColumns h
  | _ => cases h

theorem level_read {doc : Doc} (h : read doc = .ok d) : d.Level := by
  obtain ⟨raw, hraw, h⟩ := ok_of_bind h
  cases h
  intro c hc
  obtain ⟨old, hold, hrefined⟩ := List.mem_map.1 (List.of_mem_zip hc).2
  rw [← hrefined, Column.length_refine]
  exact level_ofDoc hraw old hold

end

theorem mem_of_lookup {columns : List (Label × Column)} {label : Label} {c : Column}
    (h : columns.lookup label = some c) : (label, c) ∈ columns := by
  obtain ⟨before, after, rfl, -⟩ := List.lookup_eq_some_iff.1 h
  simp

theorem Level.lookup {d : Dataset} (hd : d.Level) {label : Label} {c : Column}
    (h : d.columns.lookup label = some c) : c.cells.length = d.size :=
  hd _ (mem_of_lookup h)

theorem Level.append {a b : Dataset} (ha : a.Level) (hb : b.Level) : (a.append b).Level := by
  have hcolumn (label : Label) : (appendColumns a b label).cells.length = a.size + b.size := by
    unfold appendColumns
    split
    · rename_i c d hc hd
      rw [Column.length_append, ha.lookup hc, hb.lookup hd]
    · rename_i c hc _
      rw [Column.length_extend, ha.lookup hc, Nat.zero_add]
    · rename_i d _ hd
      rw [Column.length_extend, hb.lookup hd, Nat.add_zero]
    · exact List.length_replicate
  unfold Dataset.append
  split
  · exact hb
  · split
    · exact ha
    · intro c hc
      obtain ⟨label, -, rfl⟩ := List.mem_map.1 hc
      exact hcolumn label

/-! ## Choosing rows -/

/-- The row at a position, with nulls for the cells that are missing. -/
def rowAt (d : Dataset) (i : Nat) : Row :=
  d.columns.map fun c => (c.1, (c.2.cells[i]?).getD .null)

theorem rows_eq (d : Dataset) : d.rows = (List.range d.size).map d.rowAt :=
  rfl

theorem length_rows (d : Dataset) : d.rows.length = d.size := by
  rw [rows_eq, List.length_map, List.length_range]

theorem zipIdx_rows (d : Dataset) :
    d.rows.zipIdx = (List.range d.size).map fun i => (d.rowAt i, i) := by
  rw [rows_eq]
  refine List.ext_getElem (by simp) fun i _ _ => ?_
  simp

theorem cell?_rowAt (d : Dataset) (i : Nat) (name : Text) :
    (d.rowAt i).cell? name = (d.column? name).map fun c => (c.cells[i]?).getD .null := by
  unfold Row.cell? rowAt column?
  induction d.columns with
  | nil => rfl
  | cons first rest ih =>
    rw [List.map_cons, List.lookup_cons, List.lookup_cons, ih]
    cases Label.name name == first.1 <;> rfl

theorem cells_eq {cells : List Doc} {n : Nat} (h : cells.length = n) :
    cells = (List.range n).map fun i => (cells[i]?).getD .null := by
  subst h
  refine List.ext_getElem (by simp) fun i hi _ => ?_
  simp [hi]

theorem column_eq_ok {d : Dataset} {name : Text} {c : Column} (h : d.column name = .ok c) :
    d.column? name = some c := by
  unfold column at h
  cases hc : d.column? name with
  | none =>
    rw [hc] at h
    cases h
  | some c' =>
    rw [hc] at h
    cases h
    rfl

/-- The rows chosen by the cells of a column are those with such a cell, in their order. -/
theorem rows_filterBy {d : Dataset} (hd : d.Level) {name : Text} {column : Column}
    (h : d.column name = .ok column) (keep : Doc → Bool) :
    (d.filterBy column keep).rows = d.rows.filter fun row => (row.cell? name).any keep := by
  have hcolumn : d.column? name = some column := column_eq_ok h
  have hlength : column.cells.length = d.size := hd.lookup hcolumn
  -- the numbers of the rows that are kept
  let kept : List Nat := (List.range d.size).filter fun i => keep ((column.cells[i]?).getD .null)
  have hsize : (column.cells.filter keep).length = kept.length := by
    rw [cells_eq hlength, List.filter_map, List.length_map]
    rfl
  have hcells (c : Column) (hc : c.cells.length = d.size) :
      ((c.cells.zip column.cells).filter fun p => keep p.2).map Prod.fst =
        kept.map fun i => (c.cells[i]?).getD .null := by
    conv_lhs => rw [cells_eq hc, cells_eq hlength, List.zip_map', List.filter_map, List.map_map]
    rfl
  have hrow (j : Nat) (hj : j < kept.length) :
      (d.filterBy column keep).rowAt j = d.rowAt kept[j] := by
    unfold rowAt filterBy
    rw [List.map_map]
    refine List.map_congr_left fun c hc => ?_
    show (c.1, ((((c.2.cells.zip column.cells).filter fun p => keep p.2).map Prod.fst)[j]?).getD
      .null) = _
    rw [hcells c.2 (hd c hc), List.getElem?_map, List.getElem?_eq_getElem hj]
    rfl
  calc (d.filterBy column keep).rows
      = (List.range kept.length).map (d.filterBy column keep).rowAt := by
        rw [rows_eq, ← hsize]
        rfl
    _ = kept.map d.rowAt := by
        refine List.ext_getElem (by simp) fun j hj hj' => ?_
        rw [List.getElem_map, List.getElem_map, List.getElem_range]
        exact hrow j (by simpa using hj')
    _ = d.rows.filter fun row => (row.cell? name).any keep := by
        rw [rows_eq, List.filter_map]
        congr 1
        refine List.filter_congr fun i _ => ?_
        rw [Function.comp_apply, cell?_rowAt, hcolumn]
        rfl

theorem Level.filterBy {d : Dataset} (hd : d.Level) {column : Column}
    (hcolumn : column.cells.length = d.size) (keep : Doc → Bool) :
    (d.filterBy column keep).Level := by
  intro c hc
  obtain ⟨old, hold, rfl⟩ := List.mem_map.1 hc
  show (((old.2.cells.zip column.cells).filter fun p => keep p.2).map Prod.fst).length =
    (column.cells.filter keep).length
  have hsnd : (old.2.cells.zip column.cells).map Prod.snd = column.cells :=
    List.map_snd_zip (Nat.le_of_eq (hcolumn.trans (hd old hold).symm))
  rw [List.length_map, ← hsnd, List.filter_map, List.length_map, hsnd]
  rfl

/-! ## Setting a column -/

theorem column?_setTexts (d : Dataset) (name : Text) (texts : List Text) :
    (d.setTexts name texts).column? name = some ⟨.mixed, texts.map Doc.text⟩ := by
  unfold setTexts column? labels
  dsimp only
  induction d.columns with
  | nil => simp
  | cons first rest ih =>
    obtain ⟨label, column⟩ := first
    by_cases hlabel : Label.name name = label
    · subst hlabel
      simp
    · have hne : (Label.name name == label) = false := beq_eq_false_iff_ne.2 hlabel
      have hne' : ¬ label = Label.name name := fun h => hlabel h.symm
      simp only [List.map_cons, List.contains_cons, hne, Bool.false_or, if_neg hne']
      split
      · rename_i hmem
        rw [if_pos hmem] at ih
        rw [List.lookup_cons, hne]
        exact ih
      · rename_i hmem
        rw [if_neg hmem] at ih
        rw [List.cons_append, List.lookup_cons, hne]
        exact ih

theorem column?_setTexts_of_ne (d : Dataset) {name other : Text} (hne : other ≠ name)
    (texts : List Text) : (d.setTexts name texts).column? other = d.column? other := by
  have hlabel : (Label.name other == Label.name name) = false := by simpa using hne
  unfold setTexts column?
  dsimp only
  split
  · induction d.columns with
    | nil => rfl
    | cons first rest ih =>
      obtain ⟨label, column⟩ := first
      rw [List.map_cons, List.lookup_cons]
      by_cases h : label = Label.name name
      · subst h
        rw [if_pos rfl, List.lookup_cons, hlabel]
        simpa [hlabel] using ih
      · rw [if_neg h, List.lookup_cons, ih]
  · rw [List.lookup_append, List.lookup_cons, hlabel]
    simp

end Dataset

end QueryBench
