import QueryBench.Proofs.Compare.Rectangular
import QueryBench.Proofs.Json.Decimal

/-!
# What the text of a cell depends on

A cell is shown as it is unless its column is widened to floating point numbers. This happens where a
column of numbers has a fraction or a null in it, and also where every column is one of numbers and
another one is widened. A whole number and a null then get another text, so the rest of an answer has a
say in the texts of its cells, but only through this one bit.

Main definitions: `Table.Widens`, `Table.cellText`. Main statement: `texts_agree_iff`.
-/
set_option autoImplicit false

namespace QueryBench

/-! ## Texts that are normalised already -/

namespace Text

/-- Has the glyph no lower case of its own, and is it no blank? -/
def isSteady (g : Glyph) : Bool :=
  !isBlank g && (Case.lowerGlyph g = [g] && g ≠ 'Σ')

theorem dropWhile_of_steady {s : Text} (hs : ∀ g ∈ s, isSteady g = true) : s.dropWhile isBlank = s := by
  cases s with
  | nil => rfl
  | cons g s =>
    have hg := hs g List.mem_cons_self
    simp only [isSteady, Bool.and_eq_true, Bool.not_eq_true'] at hg
    rw [List.dropWhile_cons_of_neg (by simp [hg.1])]

theorem trim_of_steady {s : Text} (hs : ∀ g ∈ s, isSteady g = true) : trim s = s := by
  have hreverse : ∀ g ∈ s.reverse, isSteady g = true := fun g hg => hs g (List.mem_reverse.1 hg)
  rw [trim, dropEndWhile, dropWhile_of_steady hs, dropWhile_of_steady hreverse, List.reverse_reverse]

theorem lower_of_steady {s : Text} (hs : ∀ g ∈ s, isSteady g = true) : lower s = s := by
  have hfrom (before : Text) : Case.lowerFrom before s = s := by
    induction s generalizing before with
    | nil => rfl
    | cons g s ih =>
      obtain ⟨hg, hrest⟩ := List.forall_mem_cons.1 hs
      simp only [isSteady, Bool.and_eq_true, decide_eq_true_eq] at hg
      rw [Case.lowerFrom, if_neg hg.2.2, hg.2.1, ih hrest, List.singleton_append]
  exact hfrom []

end Text

namespace Cell

theorem normalized_int (n : Int) : (int n).normalized = toString n := by
  have hsteady : ∀ g ∈ Text.ofString (toString n), Text.isSteady g = true := by
    have hglyphs : ∀ g ∈ Text.ofString "0123456789-", Text.isSteady g = true := by decide +kernel
    exact fun g hg => hglyphs g (Json.subset_intText n hg)
  show Text.lower (Text.trim (Text.ofString (toString n))) = _
  rw [Text.trim_of_steady hsteady, Text.lower_of_steady hsteady]

theorem normalized_real (x : Float) : (real x).normalized = Number.floatText x := by
  have hsteady : ∀ g ∈ Text.ofString (Number.floatText x), Text.isSteady g = true := by
    have hglyphs : ∀ g ∈ Text.ofString "0123456789+-.e" ++ Text.ofString "naif",
        Text.isSteady g = true := by decide +kernel
    exact fun g hg => hglyphs g (Json.subset_realText x hg)
  show Text.lower (Text.trim (Text.ofString (Number.floatText x))) = _
  rw [Text.trim_of_steady hsteady, Text.lower_of_steady hsteady]

/-- A whole number and a null have another text as floating point numbers, and only they do. -/
theorem normalized_toReal_eq_iff (c : Cell) :
    c.toReal.normalized = c.normalized ↔ c.isNull = false ∧ c.isInt = false := by
  cases c with
  | null =>
    -- the text of a null has a glyph in it that no number has
    refine ⟨fun h => ?_, fun h => nomatch h.1⟩
    have ho : Glyph.char 'o' ∈ Text.ofString (Number.floatText missingNumber) := by
      rw [← normalized_real, show (real missingNumber).normalized = "none" from h]
      decide
    exact absurd (Json.subset_realText _ ho) (by decide)
  | int n =>
    -- a floating point number always shows a mark that no whole number has
    refine ⟨fun h => ?_, fun h => nomatch h.2⟩
    have htext : Text.ofString (Number.floatText (Number.ofInt n)) = Text.ofString (toString n) := by
      rw [← normalized_real, ← normalized_int]
      exact h
    obtain ⟨g, hg, hmark⟩ := Json.exists_mark_realText (Number.ofInt n)
    have hmarks : ∀ g ∈ Text.ofString ".en", g ∉ Text.ofString "0123456789-" := by decide
    rw [htext] at hg
    exact absurd (Json.subset_intText n hg) (hmarks g hmark)
  | real x => exact ⟨fun _ => ⟨rfl, rfl⟩, fun _ => rfl⟩
  | text s => exact ⟨fun _ => ⟨rfl, rfl⟩, fun _ => rfl⟩
  | blob bytes => exact ⟨fun _ => ⟨rfl, rfl⟩, fun _ => rfl⟩

theorem toReal_toReal (c : Cell) : c.toReal.toReal = c.toReal := by
  cases c <;> rfl

end Cell

/-! ## Columns that are widened -/

/-- Are all cells numbers or nulls, and some of them numbers? -/
def Numeric (cells : List Cell) : Prop :=
  (∀ c ∈ cells, c.isNull = true ∨ c.isNumber = true) ∧ ∃ c ∈ cells, c.isNumber = true

/-- Are all cells numbers or nulls, with some numbers, but not all of them whole? -/
def Fractional (cells : List Cell) : Prop :=
  Numeric cells ∧ ∃ c ∈ cells, c.isInt = false

instance (cells : List Cell) : Decidable (Numeric cells) :=
  inferInstanceAs (Decidable (_ ∧ _))

instance (cells : List Cell) : Decidable (Fractional cells) :=
  inferInstanceAs (Decidable (_ ∧ _))

namespace ColumnKind

theorem numeric_of_all_isInt {cells : List Cell} (hne : cells ≠ []) (h : ∀ c ∈ cells, c.isInt = true) :
    Numeric cells := by
  have hnumber {c : Cell} (hc : c.isInt = true) : c.isNumber = true := by
    cases c with
    | int n => rfl
    | _ => cases hc
  obtain ⟨c, hc⟩ := List.exists_mem_of_ne_nil cells hne
  exact ⟨fun c hc => .inr (hnumber (h c hc)), c, hc, hnumber (h c hc)⟩

theorem ofCells_eq (cells : List Cell) :
    ofCells cells =
      if Fractional cells then .fraction else if Numeric cells then .whole else .mixed := by
  have hnumbers : (cells.all (fun c => c.isNull || c.isNumber) && cells.any Cell.isNumber) = true ↔
      Numeric cells := by
    simp [Numeric]
  unfold ofCells
  by_cases hempty : cells.isEmpty = true
  · obtain rfl := List.isEmpty_iff.1 hempty
    rfl
  · rw [if_neg hempty]
    by_cases hint : cells.all Cell.isInt = true
    · have hwhole := List.all_eq_true.1 hint
      have hnot : ¬ Fractional cells := by
        rintro ⟨-, c, hc, hfalse⟩
        rw [hwhole c hc] at hfalse
        cases hfalse
      rw [if_pos hint, if_neg hnot, if_pos (numeric_of_all_isInt (by simpa using hempty) hwhole)]
    · have hother : ∃ c ∈ cells, c.isInt = false := by simpa using hint
      rw [if_neg hint]
      by_cases hnumeric : Numeric cells
      · have hfractional : Fractional cells := ⟨hnumeric, hother⟩
        rw [if_pos (hnumbers.2 hnumeric), if_pos hfractional]
      · have hnot : ¬ Fractional cells := fun h => hnumeric h.1
        rw [if_neg (mt hnumbers.1 hnumeric), if_neg hnot, if_neg hnumeric]

theorem ofCells_eq_fraction_iff {cells : List Cell} : ofCells cells = .fraction ↔ Fractional cells := by
  rw [ofCells_eq]
  split_ifs with h h' <;> simp [h]

theorem ofCells_ne_mixed_iff {cells : List Cell} : ofCells cells ≠ .mixed ↔ Numeric cells := by
  rw [ofCells_eq]
  split_ifs with h h'
  · simp [h.1]
  · simp [h']
  · simp [h']

end ColumnKind

namespace Table

/-- Are the cells of the column shown as floating point numbers? Either it has fractions, or another
column has and all columns are numeric. -/
def Widens (t : Table) (column : Nat) : Prop :=
  Fractional (t.columnCells column) ∨
    (∀ i < t.columns.length, Numeric (t.columnCells i)) ∧
      ∃ i < t.columns.length, Fractional (t.columnCells i)

instance (t : Table) (column : Nat) : Decidable (t.Widens column) :=
  inferInstanceAs (Decidable (_ ∨ _))

/-- The normalized text of a cell, as a real number if its column is widened. -/
def cellText (t : Table) (column : Nat) (c : Cell) : Text :=
  if t.Widens column then c.toReal.normalized else c.normalized

end Table

/-- The item at a place of some rows. -/
def itemAt {α : Type} (rows : List (List α)) (row column : Nat) : Option α :=
  rows[row]?.bind (·[column]?)

theorem itemAt_map {α β : Type} (f : α → β) (rows : List (List α)) (row column : Nat) :
    itemAt (rows.map (·.map f)) row column = (itemAt rows row column).map f := by
  unfold itemAt
  rw [List.getElem?_map]
  cases rows[row]? with
  | none => rfl
  | some cells => exact List.getElem?_map

namespace Table
variable {t : Table} {row column : Nat} {c : Cell}

theorem itemAt_settle (hrows : ∀ cells ∈ t.rows, cells.length = t.columns.length)
    (hc : itemAt t.rows row column = some c) :
    column < t.columns.length ∧ itemAt t.settle.rows row column =
      some (if Fractional (t.columnCells column) then c.toReal else c) := by
  obtain ⟨cells, hcells, hcell⟩ := Option.bind_eq_some_iff.1 hc
  have hcolumn : column < t.columns.length := by
    rw [← hrows cells (List.mem_of_getElem? hcells)]
    exact (List.getElem?_eq_some_iff.1 hcell).1
  have hne : t.columns.isEmpty = false := by
    cases hcolumns : t.columns with
    | nil =>
      rw [hcolumns] at hcolumn
      cases hcolumn
    | cons name names => rfl
  have hkind : t.kinds[column]? = some (.ofCells (t.columnCells column)) := by
    rw [kinds, List.getElem?_map, List.getElem?_range hcolumn]
    rfl
  have hsettle : ColumnKind.settle (.ofCells (t.columnCells column)) c =
      if Fractional (t.columnCells column) then c.toReal else c := by
    rw [ColumnKind.ofCells_eq]
    split_ifs <;> rfl
  refine ⟨hcolumn, ?_⟩
  unfold itemAt settle
  dsimp only
  rw [hne, if_neg Bool.false_ne_true, List.getElem?_map, hcells, Option.map_some, Option.bind_some,
    List.getElem?_zipWith, hkind, hcell]
  exact congrArg some hsettle

theorem itemAt_normalized (hrows : ∀ cells ∈ t.rows, cells.length = t.columns.length)
    (hc : itemAt t.rows row column = some c) :
    itemAt t.normalized row column = some (t.cellText column c) := by
  obtain ⟨hcolumn, hsettle⟩ := itemAt_settle hrows hc
  have hkinds : (t.kinds.all (· ≠ .mixed) && t.kinds.any (· = .fraction)) = true ↔
      (∀ i < t.columns.length, Numeric (t.columnCells i)) ∧
        ∃ i < t.columns.length, Fractional (t.columnCells i) := by
    simp only [kinds, Bool.and_eq_true, List.all_eq_true, List.any_eq_true, List.mem_map,
      List.mem_range, decide_eq_true_eq, forall_exists_index, and_imp, forall_apply_eq_imp_iff₂,
      exists_exists_and_eq_and, ColumnKind.ofCells_ne_mixed_iff,
      ColumnKind.ofCells_eq_fraction_iff]
  unfold normalized values cellText
  dsimp only
  rw [itemAt_map]
  by_cases hall : (∀ i < t.columns.length, Numeric (t.columnCells i)) ∧
      ∃ i < t.columns.length, Fractional (t.columnCells i)
  · have hwidens : t.Widens column := .inr hall
    rw [if_pos (hkinds.2 hall), if_pos hwidens, itemAt_map, hsettle]
    split_ifs
    · rw [Option.map_some, Option.map_some, Cell.toReal_toReal]
    · rfl
  · rw [if_neg (mt hkinds.1 hall), hsettle]
    by_cases hfractional : Fractional (t.columnCells column)
    · have hwidens : t.Widens column := .inl hfractional
      rw [if_pos hfractional, if_pos hwidens]
      rfl
    · have hnot : ¬ t.Widens column := fun h => h.elim hfractional hall
      rw [if_neg hfractional, if_neg hnot]
      rfl

end Table

/-- The text of a value does not depend on the answer it stands in beyond whether its column is
widened, and for a text, a byte string or a fraction it does not depend on this either. A whole number
and a null have the same text in two answers only if both columns are widened or none is. -/
theorem texts_agree_iff {db db' : Database} (hconnect : db.connectError = none)
    (hconnect' : db'.connectError = none) {sql sql' : Text} {t t' : Table}
    (ht : db.query (.text sql) = .ok t) (ht' : db'.query (.text sql') = .ok t')
    {row column row' column' : Nat} {c : Cell} (hc : itemAt t.rows row column = some c)
    (hc' : itemAt t'.rows row' column' = some c) :
    ∃ rows rows' s s', Yields (execute db (.text sql)) (.ok (.answered rows t.columnNames)) ∧
      Yields (execute db' (.text sql')) (.ok (.answered rows' t'.columnNames)) ∧
      itemAt rows row column = some s ∧ itemAt rows' row' column' = some s' ∧
      (s = s' ↔ (c.isNull = false ∧ c.isInt = false) ∨ (t.Widens column ↔ t'.Widens column')) := by
  have hexecute {db : Database} (hconnect : db.connectError = none) {sql : Text} {t : Table}
      (ht : db.query (.text sql) = .ok t) :
      Yields (execute db (.text sql)) (.ok (.answered t.normalized t.columnNames)) := by
    have h := yields_execute db (.text sql)
    simp only [executed, hconnect, ht] at h
    exact h
  refine ⟨t.normalized, t'.normalized, _, _, hexecute hconnect ht, hexecute hconnect' ht',
    Table.itemAt_normalized (length_of_query ht) hc,
    Table.itemAt_normalized (length_of_query ht') hc', ?_⟩
  rw [← c.normalized_toReal_eq_iff]
  unfold Table.cellText
  split_ifs with h h' h' <;> simp [h, h', eq_comm]

/-- Answers with the same number and the same null alone, together, and beside a fraction. -/
def oneAnswers : Database :=
  ⟨none, [("a", .table ⟨["v"], [[.int 1]]⟩), ("b", .table ⟨["v"], [[.null]]⟩),
    ("c", .table ⟨["v"], [[.int 1], [.null]]⟩), ("d", .table ⟨["v", "w"], [[.int 1, .real 0.5]]⟩)]⟩

theorem texts_agree_iff_widened : ∃ rows rows' s s',
    Yields (execute oneAnswers (.text "c")) (.ok (.answered rows ["v"])) ∧
    Yields (execute oneAnswers (.text "d")) (.ok (.answered rows' ["v", "w"])) ∧
    itemAt rows 0 0 = some s ∧ itemAt rows' 0 0 = some s' ∧ s = s' := by
  have hconnect : oneAnswers.connectError = none := rfl
  have hc : oneAnswers.query (.text "c") = .ok ⟨["v"], [[.int 1], [.null]]⟩ := rfl
  have hd : oneAnswers.query (.text "d") = .ok ⟨["v", "w"], [[.int 1, .real 0.5]]⟩ := rfl
  have hone : itemAt [[Cell.int 1], [.null]] 0 0 = some (.int 1) := rfl
  have hone' : itemAt [[Cell.int 1, .real 0.5]] 0 0 = some (.int 1) := rfl
  obtain ⟨rows, rows', s, s', hrun, hrun', hs, hs', hiff⟩ :=
    texts_agree_iff hconnect hconnect hc hd hone hone'
  have hwidens : Table.Widens ⟨["v"], [[.int 1], [.null]]⟩ 0 := by decide
  have hwidens' : Table.Widens ⟨["v", "w"], [[.int 1, .real 0.5]]⟩ 0 := by decide
  exact ⟨rows, rows', s, s', hrun, hrun', hs, hs', hiff.2 (.inr (iff_of_true hwidens hwidens'))⟩

/-- The number one and a null have other texts when they stand in one column. -/
theorem same_values_other_texts :
    Yields (execute oneAnswers (.text "a")) (.ok (.answered [["1"]] ["v"])) ∧
    Yields (execute oneAnswers (.text "b")) (.ok (.answered [["none"]] ["v"])) ∧
    Yields (execute oneAnswers (.text "c")) (.ok (.answered [["1.0"], ["nan"]] ["v"])) := by
  have ha : Table.normalized ⟨["v"], [[.int 1]]⟩ = ([["1"]] : List (List Text)) := by decide +kernel
  have hb : Table.normalized ⟨["v"], [[.null]]⟩ = ([["none"]] : List (List Text)) := by decide +kernel
  have hc : Table.normalized ⟨["v"], [[.int 1], [.null]]⟩ =
      ([["1.0"], ["nan"]] : List (List Text)) := by decide +kernel
  rw [← ha, ← hb, ← hc]
  exact ⟨yields_execute oneAnswers (.text "a"), yields_execute oneAnswers (.text "b"),
    yields_execute oneAnswers (.text "c")⟩

end QueryBench
