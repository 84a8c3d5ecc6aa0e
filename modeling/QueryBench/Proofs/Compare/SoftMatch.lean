import QueryBench.Proofs.Compare.Assignment
import QueryBench.Proofs.Evaluation

/-!
# A soft match is always a super soft one

When every cell of an expected row equals a cell of the predicted row at the same position, the
first free row is the right one at every turn of the search. So whatever the map of columns is under
which two answers agree, the lenient comparison holds too, and an evaluation never ends with a soft
match.

Main statement: `superSoft_covers_soft`.
-/
set_option autoImplicit false

namespace QueryBench.Compare

/-! ## Rows that agree under a map of columns -/

theorem same_of_rowMismatch {map : List Nat} {row : Nat} {partner : Doc} {cells : List Doc}
    (column : Nat) (h : rowMismatch map row column partner cells = .ok none) :
    ∀ cell ∈ cells, ∃ i got, partner.nth i = .ok got ∧ cell.same got = true := by
  induction cells generalizing column with
  | nil => simp
  | cons cell rest ih =>
    simp only [rowMismatch] at h
    cases hi : map[column]? with
    | none =>
      rw [hi] at h
      nomatch h
    | some i =>
      rw [hi] at h
      obtain ⟨got, hgot, h⟩ := ok_of_bind h
      by_cases hsame : cell.same got = true
      · rw [if_pos hsame] at h
        intro c hc
        rcases List.mem_cons.mp hc with rfl | hc
        · exact ⟨i, got, hgot, hsame⟩
        · exact ih (column + 1) h c hc
      · rw [if_neg hsame] at h
        nomatch h

theorem partner_of_rowsMismatch {map : List Nat} {predicted : Doc} {rows : List Doc} (first : Nat)
    (h : rowsMismatch map predicted first rows = .ok none) :
    ∀ (i : Nat) (row : Doc), rows[i]? = some row → ∃ partner cells,
      predicted.nth (first + i) = .ok partner ∧ row.elements = .ok cells ∧
        ∀ cell ∈ cells, ∃ j got, partner.nth j = .ok got ∧ cell.same got = true := by
  induction rows generalizing first with
  | nil => simp
  | cons expected rest ih =>
    simp only [rowsMismatch] at h
    obtain ⟨partner, hpartner, h⟩ := ok_of_bind h
    obtain ⟨cells, hcells, h⟩ := ok_of_bind h
    obtain ⟨mismatch, hmismatch, h⟩ := ok_of_bind h
    cases mismatch with
    | some reason => nomatch h
    | none =>
      intro i row hrow
      cases i with
      | zero =>
        obtain rfl : expected = row := by simpa using hrow
        exact ⟨partner, cells, hpartner, hcells, same_of_rowMismatch 0 hmismatch⟩
      | succ i =>
        have hnext := ih (first + 1) h i row hrow
        rwa [Nat.add_right_comm] at hnext

/-- A soft comparison that holds has compared every expected row with its partner to the end. -/
theorem rowsMismatch_of_soft {gold predicted : Doc} {verdict : Verdict}
    (h : soft gold predicted = .ok verdict) (hholds : verdict.holds = true) :
    ∃ map rows, gold.elements = .ok rows ∧ rowsMismatch map predicted 0 rows = .ok none := by
  have refuse {reason : Text} (hr : (.ok ⟨false, reason⟩ : Except Fault Verdict) = .ok verdict) :
      False := by
    obtain rfl := Except.ok.inj hr
    nomatch hholds
  simp only [soft] at h
  obtain ⟨_, _, h⟩ := ok_of_bind h
  obtain ⟨_, _, h⟩ := ok_of_bind h
  split at h
  · exact (refuse h).elim
  · split at h
    · exact (refuse h).elim
    · obtain ⟨_, _, h⟩ := ok_of_bind h
      obtain ⟨_, _, h⟩ := ok_of_bind h
      obtain ⟨_, _, h⟩ := ok_of_bind h
      obtain ⟨_, _, h⟩ := ok_of_bind h
      split at h
      · exact (refuse h).elim
      · obtain ⟨_, _, h⟩ := ok_of_bind h
        obtain ⟨_, _, h⟩ := ok_of_bind h
        split at h
        · exact (refuse h).elim
        · rename_i map _
          obtain ⟨rows, hrows, h⟩ := ok_of_bind h
          obtain ⟨mismatch, hmismatch, h⟩ := ok_of_bind h
          cases mismatch with
          | some reason => exact (refuse h).elim
          | none => exact ⟨map, rows, hrows, hmismatch⟩

theorem heldInPlace_of_soft {gold predicted : Doc} {expected got : List (List Doc)}
    (hgold : keyRows gold = .ok expected) (hgot : keyRows predicted = .ok got) {verdict : Verdict}
    (h : soft gold predicted = .ok verdict) (hholds : verdict.holds = true) :
    HeldInPlace expected got := by
  obtain ⟨map, rows, hrows, hmismatch⟩ := rowsMismatch_of_soft h hholds
  obtain ⟨rows', hrows', hkeys⟩ := ok_of_bind hgold
  obtain rfl : rows = rows' := Except.ok.inj (hrows.symm.trans hrows')
  obtain ⟨free, hfree, hfreeKeys⟩ := ok_of_bind hgot
  rw [mapM_eq_ok_iff] at hkeys hfreeKeys
  intro i cells hi
  obtain ⟨hlt, hcells⟩ := List.getElem?_eq_some_iff.mp hi
  have hlt' : i < rows.length := by
    rw [hkeys.length_eq]
    exact hlt
  have hrow : keyCells rows[i] = .ok cells := by
    have := hkeys.get hlt' hlt
    simpa [hcells] using this
  obtain ⟨partner, cells', hpartner, hcells', hsame⟩ :=
    partner_of_rowsMismatch 0 hmismatch i rows[i] (List.getElem?_eq_getElem hlt')
  obtain rfl : cells = cells' := Except.ok.inj ((elements_of_keyCells hrow).symm.trans hcells')
  rw [Nat.zero_add] at hpartner
  obtain ⟨hfreeLt, hfreeAt⟩ := List.getElem?_eq_some_iff.mp (getElem?_of_nth hfree hpartner)
  have hgotLt : i < got.length := by
    rw [← hfreeKeys.length_eq]
    exact hfreeLt
  refine ⟨got[i], List.getElem?_eq_getElem hgotLt, ?_⟩
  have hothers : keyCells partner = .ok got[i] := by
    have := hfreeKeys.get hfreeLt hgotLt
    simpa [hfreeAt] using this
  rw [cellsWithin, List.all_eq_true]
  intro cell hcell
  obtain ⟨j, o, ho, hs⟩ := hsame cell hcell
  rw [List.any_eq_true]
  exact ⟨o, List.mem_of_getElem? (getElem?_of_nth (elements_of_keyCells hothers) ho), hs⟩

theorem superSoft_of_heldInPlace {gold predicted : Doc} {expected got : List (List Doc)}
    (hgold : keyRows gold = .ok expected) (hgot : keyRows predicted = .ok got)
    (h : HeldInPlace expected got) : ∃ reason, superSoft gold predicted = .ok ⟨true, reason⟩ := by
  obtain ⟨⟨holds, reason⟩, hverdict, hiff⟩ := superSoft_eq hgold hgot
  have hsome : (assign got.zipIdx expected).isSome = true := by
    rw [assign_of_heldInPlace 0 h]
    rfl
  obtain rfl : holds = true := hiff.mpr ⟨h.length_le, hsome⟩
  exact ⟨reason, hverdict⟩

/-! ## Grades -/

/-- The rows of an answer are rows of keys. -/
theorem keyRows_answered (rows : List (List Text)) (columns : List Text) :
    keyRows (Execution.answered rows columns).rowsDoc = .ok (rows.map (·.map Doc.text)) := by
  have hcells (row : List Text) : keyCells (.list (row.map Doc.text)) = .ok (row.map Doc.text) := by
    have hkeys : (row.map Doc.text).forM Doc.checkKey = .ok () := by
      induction row with
      | nil => rfl
      | cons cell row ih => simpa [Doc.checkKey] using ih
    simp only [keyCells, Doc.elements, ok_bind, hkeys]
    rfl
  simp only [keyRows, Execution.rowsDoc, Doc.elements, ok_bind, mapM_eq_ok_iff]
  induction rows with
  | nil => exact .nil
  | cons row rows ih => exact .cons (hcells row) ih

/-- Two outcomes are never graded as a soft match, and never as wrong if they match softly. -/
theorem grade_ne_soft {gold predicted : Execution} {quality : Match} {reason : Option Text}
    (h : grade gold predicted = .ok (quality, reason)) :
    quality ≠ .soft ∧ ∀ verdict, soft gold.rowsDoc predicted.rowsDoc = .ok verdict →
      verdict.holds = true → quality ≠ .wrong := by
  simp only [grade] at h
  split at h
  · obtain ⟨rfl, -⟩ := Prod.mk.inj (Except.ok.inj h)
    exact ⟨nofun, fun _ _ _ => nofun⟩
  · obtain ⟨verdict, hsoft, h⟩ := ok_of_bind h
    obtain ⟨strict, _, h⟩ := ok_of_bind h
    split at h
    · obtain ⟨rfl, -⟩ := Prod.mk.inj (Except.ok.inj h)
      exact ⟨nofun, fun _ _ _ => nofun⟩
    · obtain ⟨lenient, hlenient, h⟩ := ok_of_bind h
      split at h
      · obtain ⟨rfl, -⟩ := Prod.mk.inj (Except.ok.inj h)
        exact ⟨nofun, fun _ _ _ => nofun⟩
      · rename_i hnot
        obtain ⟨rfl, -⟩ := Prod.mk.inj (Except.ok.inj h)
        refine ⟨nofun, fun verdict hv hholds => ?_⟩
        -- both outcomes have rows, or else the soft comparison would have failed
        cases gold with
        | failed _ =>
          simp only [soft] at hv
          obtain ⟨_, _, hv⟩ := ok_of_bind hv
          nomatch hv
        | answered rows columns =>
          cases predicted with
          | failed _ => nomatch hv
          | answered others otherColumns =>
            have hgold := keyRows_answered rows columns
            have hgot := keyRows_answered others otherColumns
            obtain ⟨reason, hsuper⟩ :=
              superSoft_of_heldInPlace hgold hgot (heldInPlace_of_soft hgold hgot hv hholds)
            obtain rfl := Except.ok.inj (hlenient.symm.trans hsuper)
            exact (hnot rfl).elim

theorem quality_of_evaluated {db : Database} {question : Question} {e : Evaluation}
    (h : evaluated db question = .ok e) :
    e.quality ≠ .soft ∧ ∀ verdict, soft e.gold.rowsDoc e.predicted.rowsDoc = .ok verdict →
      verdict.holds = true → e.quality ≠ .wrong := by
  have hgraded {gold predicted : Execution} (h : gradedBy question gold predicted = .ok e) :
      e.quality ≠ .soft ∧ ∀ verdict, soft e.gold.rowsDoc e.predicted.rowsDoc = .ok verdict →
        verdict.holds = true → e.quality ≠ .wrong := by
    obtain ⟨⟨quality, reason⟩, hgrade, h⟩ := ok_of_bind h
    obtain rfl := Except.ok.inj h
    exact grade_ne_soft hgrade
  simp only [evaluated] at h
  split at h
  · split at h
    · exact hgraded h
    · obtain rfl := Except.ok.inj h
      have hquality : Match.none ≠ .soft ∧ Match.none ≠ .wrong := by decide
      exact ⟨hquality.1, fun _ _ _ => hquality.2⟩
  · exact hgraded h

/-- Rows held in place make the first-fit search take exactly these rows, one after the other, and
the lenient comparison hold. So it holds whenever the soft one does: an evaluation never reports a
soft match, and what matches softly is never reported as wrong. -/
theorem superSoft_covers_soft :
    (∀ (gold predicted : Doc) (expected got : List (List Doc)),
      keyRows gold = .ok expected → keyRows predicted = .ok got → HeldInPlace expected got →
        assign got.zipIdx expected = some (List.range expected.length) ∧
          ∃ reason, superSoft gold predicted = .ok ⟨true, reason⟩) ∧
    (∀ (gold predicted : Doc) (expected got : List (List Doc)) (verdict : Verdict),
      keyRows gold = .ok expected → keyRows predicted = .ok got →
        soft gold predicted = .ok verdict → verdict.holds = true →
          ∃ reason, superSoft gold predicted = .ok ⟨true, reason⟩) ∧
    (∀ (db : Database) (question : Question) (console console' : Text) (e : Evaluation),
      runIn (evaluate db question) console = (.ok e, console') →
        e.toDoc.field "match_type" ≠ .ok (.text "SOFT_MATCH") ∧
        ∀ verdict, soft e.gold.rowsDoc e.predicted.rowsDoc = .ok verdict → verdict.holds = true →
          e.toDoc.field "match_type" ≠ .ok (.text "WRONG")) := by
  refine ⟨?_, ?_, ?_⟩
  · intro gold predicted expected got hgold hgot h
    refine ⟨?_, superSoft_of_heldInPlace hgold hgot h⟩
    rw [assign_of_heldInPlace 0 h, List.range_eq_range']
  · intro gold predicted expected got verdict hgold hgot h hholds
    exact superSoft_of_heldInPlace hgold hgot (heldInPlace_of_soft hgold hgot h hholds)
  · intro db question console console' e h
    have he : evaluated db question = .ok e := by
      rw [← yields_evaluate db question console, h]
    obtain ⟨hsoft, hwrong⟩ := quality_of_evaluated he
    refine ⟨fun hfield => ?_, fun verdict hv hholds hfield => ?_⟩
    · exact hsoft (Match.label_inj (Doc.text.inj (Except.ok.inj hfield)))
    · exact hwrong verdict hv hholds (Match.label_inj (Doc.text.inj (Except.ok.inj hfield)))

/-- Two rows of different widths. -/
def raggedGold : Doc :=
  .list [.list [.text "x", .text "y"], .list [.text "y"]]

/-- Rows that hold those of `raggedGold` in place, under another order of columns, and one more. -/
def raggedPredicted : Doc :=
  .list [.list [.text "y", .text "x", .text "y"], .list [.text "z", .text "y"], .list []]

/-- A database with one answer of two rows and one that has a further column before it. -/
def twoAnswers : Database where
  connectError := none
  replies := [("gold", .table ⟨["a"], [[.text "x"], [.text "y"]]⟩),
    ("predicted", .table ⟨["b", "a"], [[.text "u", .text "x"], [.text "v", .text "y"]]⟩)]

theorem superSoft_covers_soft_ragged :
    (∃ reason, superSoft raggedGold raggedPredicted = .ok ⟨true, reason⟩) ∧
    ∃ e console, runIn (evaluate twoAnswers ⟨.null, .null, .text "gold", .text "predicted", .null⟩) []
        = (.ok e, console) ∧ e.toDoc.field "match_type" ≠ .ok (.text "WRONG") := by
  obtain ⟨hplace, hsoft, hevaluate⟩ := superSoft_covers_soft
  have hgold : keyRows raggedGold = .ok [[.text "x", .text "y"], [.text "y"]] := rfl
  have hgot : keyRows raggedPredicted =
      .ok [[.text "y", .text "x", .text "y"], [.text "z", .text "y"], []] := rfl
  have hheld : HeldInPlace [[.text "x", .text "y"], [.text "y"]]
      [[.text "y", .text "x", .text "y"], [.text "z", .text "y"], []] := by
    intro i cells hi
    match i with
    | 0 => exact ⟨_, rfl, by obtain rfl := Option.some.inj hi; rfl⟩
    | 1 => exact ⟨_, rfl, by obtain rfl := Option.some.inj hi; rfl⟩
    | _ + 2 => nomatch hi
  have hrows := hplace _ _ _ _ hgold hgot hheld
  obtain ⟨console, hrun⟩ := (yields_evaluate twoAnswers
    ⟨.null, .null, .text "gold", .text "predicted", .null⟩).run []
  refine ⟨hsoft _ _ _ _ ⟨true, "Soft Match Successful (Mapped & Ordered)"⟩ hgold hgot rfl rfl, ?_⟩
  obtain ⟨e, he⟩ : ∃ e, evaluated twoAnswers
      ⟨.null, .null, .text "gold", .text "predicted", .null⟩ = .ok e := ⟨_, rfl⟩
  rw [he] at hrun
  refine ⟨e, console, hrun, ?_⟩
  have hv : soft e.gold.rowsDoc e.predicted.rowsDoc =
      .ok ⟨true, "Soft Match Successful (Mapped & Ordered)"⟩ := by
    obtain rfl := Except.ok.inj he
    rfl
  exact (hevaluate _ _ _ _ e hrun).2 _ hv rfl

end QueryBench.Compare
