import Mathlib.Data.List.FinRange
import Mathlib.Data.List.Nodup
import QueryBench.Proofs.Compare.Rectangular
import QueryBench.Proofs.Doc.Same

/-!
# What a map of columns finds

The soft comparison fixes a map of columns by the first row: every expected cell takes the first free
predicted cell that is the same. The rows are then compared under this map. A comparison that holds
has thus found different columns for different ones, with the same cells in every row. Other such maps
can be missed, because a repeated cell of the first predicted row lets the first row choose wrongly.
Without a repeated cell there is no choice.

Main definitions: `tableDoc`, `cellAt`, `AgreesUnder`. Main statement: `soft_finds_columns`.
-/
set_option autoImplicit false

namespace QueryBench.Compare

/-- Rows as a document. -/
def tableDoc (rows : List (List Doc)) : Doc :=
  .list (rows.map .list)

/-- The cell in a row and a column. -/
def cellAt (rows : List (List Doc)) (i c : Nat) : Option Doc :=
  rows[i]?.bind fun row => row[c]?

/-- Whatever stands in an expected column stands in the predicted column that it is mapped to. -/
def AgreesUnder {m n : Nat} (f : Fin m → Fin n) (expected got : List (List Doc)) : Prop :=
  ∀ (i : Nat) (c : Fin m) (cell : Doc), cellAt expected i c = some cell →
    ∃ other, cellAt got i (f c) = some other ∧ cell.same other = true

/-- The same for a map that lists the numbers of columns, with predicted rows from a position on. -/
def AgreesFrom (map : List Nat) (first : Nat) (expected got : List (List Doc)) : Prop :=
  ∀ (i c : Nat) (cell : Doc), cellAt expected i c = some cell →
    ∃ j other, map[c]? = some j ∧ cellAt got (first + i) j = some other ∧ cell.same other = true

/-! ## The map of the first row -/

/-- Among numbered cells, number `i` is the same as the given one. -/
def SameIn (free : List (Nat × Doc)) (cell : Doc) (i : Nat) : Prop :=
  ∃ d, (i, d) ∈ free ∧ cell.same d = true

theorem sameIn_numbered {items : List Doc} {cell : Doc} {i : Nat} :
    SameIn (numbered items) cell i ↔ ∃ d, items[i]? = some d ∧ cell.same d = true := by
  simp [SameIn, numbered, List.mem_zipIdx_iff_getElem?]

theorem nodup_numbered (items : List Doc) : ((numbered items).map Prod.fst).Nodup := by
  have hnumbers : (numbered items).map Prod.fst = items.zipIdx.map Prod.snd := by
    simp [numbered, Function.comp_def]
  rw [hnumbers, List.zipIdx_map_snd]
  exact List.nodup_range'

theorem claimCell_splits {cell : Doc} {free left : List (Nat × Doc)} {i : Nat}
    (h : claimCell cell free = some (i, left)) :
    ∃ before d after, free = before ++ (i, d) :: after ∧ left = before ++ after ∧
      cell.same d = true := by
  induction free generalizing left with
  | nil => cases h
  | cons f rest ih =>
    rw [claimCell] at h
    split at h
    · rename_i hsame
      cases h
      exact ⟨[], f.2, rest, rfl, rfl, hsame⟩
    · obtain ⟨⟨j, others⟩, hothers, heq⟩ := Option.map_eq_some_iff.1 h
      cases heq
      obtain ⟨before, d, after, rfl, rfl, hsame⟩ := ih hothers
      exact ⟨f :: before, d, after, rfl, rfl, hsame⟩

theorem sameIn_of_claimCell {cell : Doc} {free left : List (Nat × Doc)} {i : Nat}
    (h : claimCell cell free = some (i, left)) : SameIn free cell i := by
  obtain ⟨before, d, after, rfl, -, hsame⟩ := claimCell_splits h
  exact ⟨d, by simp, hsame⟩

theorem claimCell_isSome {cell : Doc} {free : List (Nat × Doc)} {i : Nat} (h : SameIn free cell i) :
    (claimCell cell free).isSome = true := by
  obtain ⟨d, hd, hsame⟩ := h
  induction free with
  | nil => cases hd
  | cons f rest ih =>
    rw [claimCell]
    split
    · rfl
    · rename_i hne
      rcases List.mem_cons.1 hd with rfl | hd
      · exact absurd hsame hne
      · rw [Option.isSome_map]
        exact ih hd

section
variable {cell : Doc} {free left : List (Nat × Doc)} {i : Nat}
  (hfree : (free.map Prod.fst).Nodup) (h : claimCell cell free = some (i, left))
include hfree h

theorem nodup_left : (left.map Prod.fst).Nodup := by
  obtain ⟨before, d, after, rfl, rfl, -⟩ := claimCell_splits h
  exact hfree.sublist (((List.sublist_cons_self _ _).append_left before).map Prod.fst)

/-- What is left to claim is everything but the cell that was taken. -/
theorem sameIn_left (other : Doc) (j : Nat) :
    SameIn left other j ↔ SameIn free other j ∧ j ≠ i := by
  obtain ⟨before, d, after, rfl, rfl, -⟩ := claimCell_splits h
  rw [List.map_append, List.map_cons, List.nodup_middle] at hfree
  obtain ⟨hi, -⟩ := List.nodup_cons.1 hfree
  rw [← List.map_append] at hi
  constructor
  · rintro ⟨e, he, hsame⟩
    refine ⟨⟨e, ?_, hsame⟩, ?_⟩
    · rw [List.mem_append] at he ⊢
      exact he.imp_right (List.mem_cons_of_mem _)
    · rintro rfl
      exact hi (List.mem_map.2 ⟨_, he, rfl⟩)
  · rintro ⟨⟨e, he, hsame⟩, hne⟩
    refine ⟨e, ?_, hsame⟩
    rw [List.mem_append, List.mem_cons, Prod.mk.injEq] at he
    rw [List.mem_append]
    exact he.imp_right (·.resolve_left fun heq => hne heq.1)

end

/-- The map takes different columns to different ones, whose first cells are the same. -/
theorem mapColumns_sound {cells : List Doc} {column : Nat} {free : List (Nat × Doc)} {map : List Nat}
    (hfree : (free.map Prod.fst).Nodup) (h : mapColumns column free cells = .ok map) :
    map.Nodup ∧ List.Forall₂ (SameIn free) cells map := by
  induction cells generalizing column free map with
  | nil =>
    cases h
    exact ⟨.nil, .nil⟩
  | cons cell rest ih =>
    rw [mapColumns] at h
    cases hclaim : claimCell cell free with
    | none =>
      rw [hclaim] at h
      cases h
    | some r =>
      obtain ⟨i, left⟩ := r
      rw [hclaim] at h
      obtain ⟨others, hothers, rfl⟩ := ok_of_map h
      obtain ⟨hnodup, hsame⟩ := ih (nodup_left hfree hclaim) hothers
      have hleft := sameIn_left hfree hclaim
      refine ⟨List.nodup_cons.2 ⟨?_, hnodup⟩, .cons (sameIn_of_claimCell hclaim) (hsame.imp ?_)⟩
      · intro hmem
        obtain ⟨later, -, hlater⟩ := exists_mem_of_forall₂ hsame.flip hmem
        exact ((hleft _ _).1 hlater).2 rfl
      · intro later j hlater
        exact ((hleft _ _).1 hlater).1

/-- Where no cell has a choice, the map is the only one there is. -/
theorem mapColumns_forced {cells : List Doc} {column : Nat} {free : List (Nat × Doc)}
    {map : List Nat} (hfree : (free.map Prod.fst).Nodup)
    (hone : ∀ cell ∈ cells, ∀ i j, SameIn free cell i → SameIn free cell j → i = j)
    (hnodup : map.Nodup) (h : List.Forall₂ (SameIn free) cells map) :
    mapColumns column free cells = .ok map := by
  induction cells generalizing column free map with
  | nil =>
    cases h
    rfl
  | cons cell rest ih =>
    obtain _ | @⟨_, i, _, map, hi, hrest⟩ := h
    obtain ⟨hhead, htail⟩ := List.forall_mem_cons.1 hone
    obtain ⟨hne, hnodup⟩ := List.nodup_cons.1 hnodup
    obtain ⟨⟨j, left⟩, hclaim⟩ := Option.isSome_iff_exists.1 (claimCell_isSome hi)
    have hleft := sameIn_left hfree hclaim
    -- the cell that is claimed is the only one it can be
    obtain rfl := hhead i j hi (sameIn_of_claimCell hclaim)
    have hsame : List.Forall₂ (SameIn left) rest map := by
      rw [List.forall₂_iff_zip] at hrest ⊢
      refine ⟨hrest.1, fun {later k} hk => (hleft later k).2 ⟨hrest.2 hk, ?_⟩⟩
      rintro rfl
      exact hne (List.of_mem_zip hk).2
    have hone' : ∀ later ∈ rest, ∀ k l, SameIn left later k → SameIn left later l → k = l :=
      fun later hlater k l hk hl =>
        htail later hlater k l ((hleft _ _).1 hk).1 ((hleft _ _).1 hl).1
    rw [mapColumns, hclaim]
    dsimp only
    rw [ih (nodup_left hfree hclaim) hone' hnodup hsame]
    rfl

/-! ## The rows under a map -/

theorem rowMismatch_iff {map : List Nat} {row column : Nat} {partner cells : List Doc} :
    rowMismatch map row column (.list partner) cells = .ok none ↔
      ∀ (k : Nat) (cell : Doc), cells[k]? = some cell → ∃ i other, map[column + k]? = some i ∧
        partner[i]? = some other ∧ cell.same other = true := by
  -- a later cell stands one place nearer and is compared one column further on
  induction cells generalizing column with
  | nil => simp [rowMismatch]
  | cons cell rest ih =>
    rw [rowMismatch]
    constructor
    · intro h
      cases hi : map[column]? with
      | none =>
        rw [hi] at h
        cases h
      | some i =>
        rw [hi] at h
        obtain ⟨got, hgot, h⟩ := ok_of_bind h
        by_cases hsame : cell.same got = true
        · rw [if_pos hsame] at h
          intro k other hk
          cases k with
          | zero =>
            cases hk
            exact ⟨i, got, hi, getElem?_of_nth rfl hgot, hsame⟩
          | succ k =>
            have hnext := ih.1 h k other hk
            rwa [Nat.add_assoc, Nat.add_comm 1 k] at hnext
        · rw [if_neg hsame] at h
          cases h
    · intro h
      obtain ⟨i, got, hi, hgot, hsame⟩ := h 0 cell rfl
      rw [Nat.add_zero] at hi
      rw [hi]
      dsimp only
      rw [nth_list hgot, ok_bind, if_pos hsame, ih]
      intro k other hk
      rw [Nat.add_assoc, Nat.add_comm 1 k]
      exact h (k + 1) other hk

theorem rowsMismatch_iff {map : List Nat} {got rows : List (List Doc)} {first : Nat}
    (hlength : first + rows.length ≤ got.length) :
    rowsMismatch map (tableDoc got) first (rows.map .list) = .ok none ↔
      AgreesFrom map first rows got := by
  induction rows generalizing first with
  | nil => simp [rowsMismatch, AgreesFrom, cellAt]
  | cons row rest ih =>
    rw [List.length_cons] at hlength
    obtain ⟨partner, hpartner⟩ : ∃ partner, got[first]? = some partner :=
      ⟨_, List.getElem?_eq_getElem (by omega)⟩
    have hnth : (tableDoc got).nth first = .ok (.list partner) :=
      nth_list (by rw [List.getElem?_map, hpartner]; rfl)
    have hgot (c : Nat) : cellAt got first c = partner[c]? := by
      rw [cellAt, hpartner, Option.bind_some]
    rw [List.map_cons, rowsMismatch, hnth, ok_bind, Doc.elements, ok_bind]
    constructor
    · intro h
      obtain ⟨mismatch, hmismatch, h⟩ := ok_of_bind h
      cases mismatch with
      | some reason => cases h
      | none =>
        intro k c cell hcell
        cases k with
        | zero =>
          obtain ⟨i, other, hi, hother, hsame⟩ := rowMismatch_iff.1 hmismatch c cell hcell
          rw [Nat.zero_add] at hi
          exact ⟨i, other, hi, (hgot i).trans hother, hsame⟩
        | succ k =>
          have hnext := (ih (by omega)).1 h k c cell hcell
          rwa [Nat.add_assoc, Nat.add_comm 1 k] at hnext
    · intro h
      have hnone : rowMismatch map first 0 (.list partner) row = .ok none := by
        refine rowMismatch_iff.2 fun c cell hcell => ?_
        obtain ⟨i, other, hi, hother, hsame⟩ := h 0 c cell hcell
        exact ⟨i, other, by rwa [Nat.zero_add], (hgot i).symm.trans hother, hsame⟩
      rw [hnone, ok_bind]
      refine (ih (by omega)).2 fun k c cell hcell => ?_
      rw [Nat.add_assoc, Nat.add_comm 1 k]
      exact h (k + 1) c cell hcell

/-! ## The comparison -/

theorem size_tableDoc (rows : List (List Doc)) : (tableDoc rows).size = .ok rows.length := by
  simp [tableDoc, Doc.size]

theorem nth_tableDoc (row : List Doc) (rows : List (List Doc)) :
    (tableDoc (row :: rows)).nth 0 = .ok (.list row) :=
  nth_list rfl

theorem width_le_of_mapColumns {cells free : List Doc} {map : List Nat}
    (h : mapColumns 0 (numbered free) cells = .ok map) : cells.length ≤ free.length := by
  obtain ⟨hnodup, hsame⟩ := mapColumns_sound (nodup_numbered free) h
  obtain ⟨-, hbound⟩ := mapColumns_ok h
  have hsub : map ⊆ List.range free.length := fun i hi =>
    List.mem_range.2 (lt_of_mem_numbered (hbound i hi))
  have hle := (List.subperm_of_subset hnodup hsub).length_le
  rw [List.length_range] at hle
  rwa [hsame.length_eq]

/-- The comparison holds if there are enough rows, the first row gives a map, and all rows agree
under it. -/
theorem soft_holds_iff {cells : List Doc} {rest got : List (List Doc)} :
    (∃ reason, soft (tableDoc (cells :: rest)) (tableDoc got) = .ok ⟨true, reason⟩) ↔
      (cells :: rest).length ≤ got.length ∧ ∃ free map, got[0]? = some free ∧
        mapColumns 0 (numbered free) cells = .ok map ∧ AgreesFrom map 0 (cells :: rest) got := by
  rw [soft, size_tableDoc, ok_bind, size_tableDoc, ok_bind]
  by_cases hfew : got.length < (cells :: rest).length
  · rw [if_pos hfew]
    constructor
    · rintro ⟨reason, h⟩
      cases h
    · rintro ⟨hle, -⟩
      omega
  · rw [if_neg hfew, if_neg (by simp)]
    cases got with
    | nil => simp at hfew
    | cons free others =>
      have hlength : 0 + (cells :: rest).length ≤ (free :: others).length := by omega
      rw [nth_tableDoc, ok_bind, Doc.size, ok_bind, nth_tableDoc, ok_bind, Doc.size, ok_bind]
      constructor
      · rintro ⟨reason, h⟩
        by_cases hwidth : free.length < cells.length
        · rw [if_pos hwidth] at h
          cases h
        · rw [if_neg hwidth, Doc.elements, ok_bind, Doc.elements, ok_bind] at h
          cases hmap : mapColumns 0 (numbered free) cells with
          | error e =>
            rw [hmap] at h
            cases h
          | ok map =>
            rw [hmap] at h
            obtain ⟨_, ⟨⟩, h⟩ := ok_of_bind h
            obtain ⟨mismatch, hmismatch, h⟩ := ok_of_bind h
            cases mismatch with
            | some reason => cases h
            | none => exact ⟨by omega, free, map, rfl, hmap, (rowsMismatch_iff hlength).1 hmismatch⟩
      · rintro ⟨-, _, map, ⟨⟩, hmap, hagrees⟩
        -- a map makes the test of the widths needless
        have hwidth := width_le_of_mapColumns hmap
        rw [if_neg (by omega), Doc.elements, ok_bind, Doc.elements, ok_bind, hmap]
        dsimp only
        rw [tableDoc, Doc.elements, ok_bind, (rowsMismatch_iff hlength).2 hagrees]
        exact ⟨_, rfl⟩

/-- A map from the first row is a map of columns. -/
theorem exists_columns {cells free : List Doc} {map : List Nat} {expected got : List (List Doc)}
    (hmap : mapColumns 0 (numbered free) cells = .ok map)
    (hagrees : AgreesFrom map 0 expected got) :
    ∃ f : Fin cells.length → Fin free.length, Function.Injective f ∧ AgreesUnder f expected got := by
  obtain ⟨hnodup, hsame⟩ := mapColumns_sound (nodup_numbered free) hmap
  obtain ⟨-, hbound⟩ := mapColumns_ok hmap
  have hlength := hsame.length_eq
  have hlt (c : Fin map.length) : map.get c < free.length :=
    lt_of_mem_numbered (hbound _ (List.get_mem map c))
  refine ⟨fun c => ⟨map.get (c.cast hlength), hlt _⟩, ?_, ?_⟩
  · intro c d hcd
    exact Fin.cast_injective _ (List.nodup_iff_injective_get.1 hnodup (Fin.mk.inj hcd))
  · intro i c cell hcell
    obtain ⟨j, other, hj, hother, hsame⟩ := hagrees i c cell hcell
    obtain ⟨_, rfl⟩ := List.getElem?_eq_some_iff.1 hj
    rw [Nat.zero_add] at hother
    exact ⟨other, hother, hsame⟩

/-- Cells that all differ leave no choice: two of them that are the same as an expected cell would be
the same as each other. -/
theorem eq_of_sameIn {free : List Doc} (hdiffer : free.Pairwise fun a b => a.same b = false)
    {cell : Doc} (hkeys : cell.UniqueKeys) {i j : Nat} (hi : SameIn (numbered free) cell i)
    (hj : SameIn (numbered free) cell j) : i = j := by
  obtain ⟨a, ha, hsame⟩ := sameIn_numbered.1 hi
  obtain ⟨b, hb, hsame'⟩ := sameIn_numbered.1 hj
  obtain ⟨hlt, rfl⟩ := List.getElem?_eq_some_iff.1 ha
  obtain ⟨hlt', rfl⟩ := List.getElem?_eq_some_iff.1 hb
  rw [List.pairwise_iff_getElem] at hdiffer
  rcases Nat.lt_trichotomy i j with h | h | h
  · have hne := hdiffer i j hlt hlt' h
    rw [Doc.same_of_same hkeys hsame hsame'] at hne
    cases hne
  · exact h
  · have hne := hdiffer j i hlt' hlt h
    rw [Doc.same_of_same hkeys hsame' hsame] at hne
    cases hne

theorem mapColumns_of_columns {cells free : List Doc} {f : Fin cells.length → Fin free.length}
    (hf : Function.Injective f) (hkeys : ∀ cell ∈ cells, cell.UniqueKeys)
    (hdiffer : free.Pairwise fun a b => a.same b = false)
    (hsame : ∀ c, ∃ other, free[(f c : Nat)]? = some other ∧ (cells.get c).same other = true) :
    mapColumns 0 (numbered free) cells = .ok (List.ofFn fun c => (f c : Nat)) := by
  refine mapColumns_forced (nodup_numbered free) ?_ ?_ ?_
  · intro cell hcell i j hi hj
    exact eq_of_sameIn hdiffer (hkeys cell hcell) hi hj
  · refine List.nodup_ofFn.2 fun c d hcd => hf (Fin.ext hcd)
  · refine List.forall₂_iff_get.2 ⟨by simp, fun c hc hc' => ?_⟩
    have hcell := sameIn_numbered.2 (hsame ⟨c, hc⟩)
    simpa using hcell

theorem agreesFrom_of_agreesUnder {m n : Nat} {f : Fin m → Fin n} {expected got : List (List Doc)}
    (hexpected : ∀ row ∈ expected, row.length = m) (h : AgreesUnder f expected got) :
    AgreesFrom (List.ofFn fun c => (f c : Nat)) 0 expected got := by
  intro i c cell hcell
  have hc : c < m := by
    obtain ⟨row, hrow, hat⟩ := Option.bind_eq_some_iff.1 hcell
    rw [← hexpected row (List.mem_of_getElem? hrow)]
    exact (List.getElem?_eq_some_iff.1 hat).1
  obtain ⟨other, hother, hsame⟩ := h i ⟨c, hc⟩ cell hcell
  exact ⟨f ⟨c, hc⟩, other, by simp [hc], by rwa [Nat.zero_add], hsame⟩

/-- A soft comparison that holds has found for every expected column a predicted column of its own
with the same cells. Conversely it finds such columns, if there are any and the cells of the first
predicted row all differ. -/
theorem soft_finds_columns {m n : Nat} {expected got : List (List Doc)} (hne : expected ≠ [])
    (hexpected : ∀ row ∈ expected, row.length = m) (hgot : ∀ row ∈ got, row.length = n) :
    ((∃ reason, soft (tableDoc expected) (tableDoc got) = .ok ⟨true, reason⟩) →
      expected.length ≤ got.length ∧
        ∃ f : Fin m → Fin n, Function.Injective f ∧ AgreesUnder f expected got) ∧
    ((∀ row ∈ expected, ∀ cell ∈ row, cell.UniqueKeys) →
      (∀ row, got[0]? = some row → row.Pairwise fun a b => a.same b = false) →
      expected.length ≤ got.length →
      (∃ f : Fin m → Fin n, Function.Injective f ∧ AgreesUnder f expected got) →
      ∃ reason, soft (tableDoc expected) (tableDoc got) = .ok ⟨true, reason⟩) := by
  cases expected with
  | nil => exact absurd rfl hne
  | cons cells rest =>
    obtain rfl : cells.length = m := hexpected cells (by simp)
    rw [soft_holds_iff]
    constructor
    · rintro ⟨hle, free, map, hfree, hmap, hagrees⟩
      refine ⟨hle, ?_⟩
      obtain rfl : free.length = n := hgot free (List.mem_of_getElem? hfree)
      exact exists_columns hmap hagrees
    · rintro hkeys hdiffer hle ⟨f, hf, hagrees⟩
      obtain ⟨free, hfree⟩ : ∃ free, got[0]? = some free :=
        ⟨_, List.getElem?_eq_getElem (Nat.lt_of_lt_of_le (by simp) hle)⟩
      obtain rfl : free.length = n := hgot free (List.mem_of_getElem? hfree)
      -- the columns agree in the first row, which forces the map on them
      have hfirst (c : Fin cells.length) :
          ∃ other, free[(f c : Nat)]? = some other ∧ (cells.get c).same other = true := by
        obtain ⟨other, hother, hsame⟩ := hagrees 0 c (cells.get c) (by simp [cellAt])
        rw [cellAt, hfree, Option.bind_some] at hother
        exact ⟨other, hother, hsame⟩
      have hmap := mapColumns_of_columns hf (hkeys cells (by simp)) (hdiffer free hfree) hfirst
      exact ⟨hle, free, _, hfree, hmap, agreesFrom_of_agreesUnder hexpected hagrees⟩

def listedRows : List (List Doc) :=
  [[.int 1, .list [.text "a"]], [.int 2, .null]]

/-- The columns of `listedRows` the other way round, with one between them and a further row. -/
def turnedRows : List (List Doc) :=
  [[.list [.text "a"], .text "x", .bool true], [.null, .text "x", .int 2], [.null, .null, .null]]

/-- Where `turnedRows` has the columns of `listedRows`. -/
def turnedColumn (c : Fin 2) : Fin 3 :=
  if c.val = 0 then ⟨2, by decide⟩ else ⟨0, by decide⟩

theorem soft_finds_columns_turned :
    (∃ reason, soft (tableDoc listedRows) (tableDoc turnedRows) = .ok ⟨true, reason⟩) ∧
    ∃ f : Fin 2 → Fin 3, Function.Injective f ∧ AgreesUnder f listedRows turnedRows := by
  have hne : listedRows ≠ [] := by simp [listedRows]
  have hlisted : ∀ row ∈ listedRows, row.length = 2 := by decide
  have hturned : ∀ row ∈ turnedRows, row.length = 3 := by decide
  obtain ⟨hcolumns, hfinds⟩ := soft_finds_columns hne hlisted hturned
  have hkeys : ∀ row ∈ listedRows, ∀ cell ∈ row, cell.UniqueKeys := by
    have hlist : (Doc.list [.text "a"]).UniqueKeys := .list (by simpa using .text _)
    simp only [listedRows, List.forall_mem_cons]
    exact ⟨⟨.int 1, hlist, by simp⟩, ⟨.int 2, .null, by simp⟩, by simp⟩
  have hdiffer : ∀ row, turnedRows[0]? = some row → row.Pairwise fun a b => a.same b = false := by
    intro row hrow
    cases hrow
    decide
  have hinjective : Function.Injective turnedColumn := by
    intro c d
    revert c d
    decide
  have hagrees : AgreesUnder turnedColumn listedRows turnedRows := by
    intro i c cell hcell
    obtain ⟨c, hc⟩ := c
    obtain rfl | rfl : c = 0 ∨ c = 1 := by omega
    · rcases i with _ | _ | i
      · cases hcell
        exact ⟨_, rfl, rfl⟩
      · cases hcell
        exact ⟨_, rfl, rfl⟩
      · cases hcell
    · rcases i with _ | _ | i
      · cases hcell
        exact ⟨_, rfl, rfl⟩
      · cases hcell
        exact ⟨_, rfl, rfl⟩
      · cases hcell
  have h := hfinds hkeys hdiffer (by decide) ⟨turnedColumn, hinjective, hagrees⟩
  exact ⟨h, (hcolumns h).2⟩

end QueryBench.Compare
