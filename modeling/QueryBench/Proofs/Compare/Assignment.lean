import QueryBench.Compare.Verdict
import QueryBench.Proofs.Outcome

/-!
# The rows that the lenient comparison pairs

`superSoft` goes through the expected rows and lets each take the first free predicted row that
holds its cells. `assign` says which positions are taken. It works on rows whose cells are known to
be keys, so it cannot fail.

Main statements: `superSoft_eq` reads the verdict off `assign`; `assign_of_heldInPlace` says that rows
held by those at their own positions take exactly these.
-/
set_option autoImplicit false

namespace QueryBench.Compare

/-- The first numbered row that holds all the given cells: its number, and the other rows. -/
def takeRow (cells : List Doc) :
    List (List Doc × Nat) → Option (Nat × List (List Doc × Nat))
  | [] => none
  | (row, i) :: rest =>
    if cellsWithin cells row then some (i, rest)
    else (takeRow cells rest).map fun (j, left) => (j, (row, i) :: left)

/-- The numbers of the rows that the expected ones take, each the first one that is free. -/
def assign (free : List (List Doc × Nat)) : List (List Doc) → Option (List Nat)
  | [] => some []
  | cells :: rest => match takeRow cells free with
    | none => none
    | some (i, left) => (assign left rest).map (i :: ·)

/-- Every expected row has a predicted one at its own position that holds its cells. -/
def HeldInPlace (expected got : List (List Doc)) : Prop :=
  ∀ (i : Nat) (cells : List Doc), expected[i]? = some cells →
    ∃ row, got[i]? = some row ∧ cellsWithin cells row = true

/-! ## Rows of keys -/

theorem elements_of_keyCells {row : Doc} {cells : List Doc} (h : keyCells row = .ok cells) :
    row.elements = .ok cells := by
  obtain ⟨items, hitems, h⟩ := ok_of_bind h
  obtain ⟨_, _, h⟩ := ok_of_bind h
  obtain rfl : items = cells := Except.ok.inj h
  exact hitems

theorem size_of_elements {d : Doc} {items : List Doc} (h : d.elements = .ok items) :
    d.size = .ok items.length := by
  cases d with
  | list xs => cases h; rfl
  | text s => cases h; simp [Doc.size]
  | record fields => cases h; simp [Doc.size]
  | _ => nomatch h

theorem isVoid_of_elements {d : Doc} {items : List Doc} (h : d.elements = .ok items) :
    d.isVoid = items.isEmpty := by
  cases d with
  | list xs => cases h; rfl
  | text s => cases h; simp [Doc.isVoid]
  | record fields => cases h; simp [Doc.isVoid]
  | _ => nomatch h

theorem getElem?_of_nth {d v : Doc} {items : List Doc} {n : Nat} (h : d.elements = .ok items)
    (hv : d.nth n = .ok v) : items[n]? = some v := by
  have place (len : Nat) : Doc.place? len (n : Int) = if n < len then some n else none := by
    simp only [Doc.place?]
    grind
  cases d with
  | list xs =>
    cases h
    simp only [Doc.nth, Doc.index, Doc.asInt?, place] at hv
    grind
  | text s =>
    cases h
    simp only [Doc.nth, Doc.index, Doc.asInt?, place] at hv
    grind
  | record fields => nomatch hv
  | _ => nomatch h

/-! ## The search on documents and on rows of keys -/

/-- Are these documents lists with the cells of these rows? -/
abbrev RowsOf (rows : List Doc) (cells : List (List Doc × Nat)) : Prop :=
  List.Forall₂ (fun row c => keyCells row = .ok c.1) rows cells

theorem claimRow_eq {free : List Doc} {got : List (List Doc × Nat)} (cells : List Doc)
    (h : RowsOf free got) :
    ∃ left, claimRow cells free = .ok left ∧
      match takeRow cells got with
      | none => left = none
      | some (_, others) => ∃ rows, left = some rows ∧ RowsOf rows others := by
  induction h with
  | nil => exact ⟨none, rfl, rfl⟩
  | @cons row c free got hrow hrest ih =>
    obtain ⟨others, i⟩ := c
    simp only [claimRow, takeRow]
    rw [show keyCells row = .ok others from hrow]
    by_cases hw : cellsWithin cells others = true
    · refine ⟨some free, ?_, ?_⟩
      · simp [hw, pure, Except.pure]
      · simpa [hw] using hrest
    · obtain ⟨left, hleft, ih⟩ := ih
      refine ⟨left.map (row :: ·), ?_, ?_⟩
      · simp [hw, pure, Except.pure, hleft]
      · cases ht : takeRow cells got with
        | none => simp_all
        | some p =>
          rw [ht] at ih
          obtain ⟨rows, rfl, hrows⟩ := ih
          have hboth : RowsOf (row :: rows) ((others, i) :: p.2) := .cons hrow hrows
          simpa [hw] using hboth

theorem unclaimedRow_eq {free rows : List Doc} {got : List (List Doc × Nat)}
    {expected : List (List Doc)} (hfree : RowsOf free got)
    (hrows : List.Forall₂ (fun row cells => keyCells row = .ok cells) rows expected) :
    ∃ row, unclaimedRow free rows = .ok row ∧ (row = none ↔ (assign got expected).isSome) := by
  induction hrows generalizing free got with
  | nil => exact ⟨none, rfl, by simp [assign]⟩
  | @cons row cells rows expected hrow _ ih =>
    obtain ⟨left, hleft, hmatch⟩ := claimRow_eq cells hfree
    simp only [unclaimedRow, assign]
    rw [hrow, ok_bind, hleft]
    cases ht : takeRow cells got with
    | none =>
      rw [ht] at hmatch
      subst hmatch
      exact ⟨some row, rfl, by simp⟩
    | some p =>
      rw [ht] at hmatch
      obtain ⟨free', rfl, hfree'⟩ := hmatch
      obtain ⟨r, hr, hiff⟩ := ih hfree'
      exact ⟨r, hr, by simpa using hiff⟩

/-- The lenient comparison of rows of keys holds exactly if there are enough of them and every
expected row finds one that is free. -/
theorem superSoft_eq {gold predicted : Doc} {expected got : List (List Doc)}
    (hgold : keyRows gold = .ok expected) (hgot : keyRows predicted = .ok got) :
    ∃ verdict, superSoft gold predicted = .ok verdict ∧
      (verdict.holds = true ↔
        expected.length ≤ got.length ∧ (assign got.zipIdx expected).isSome) := by
  obtain ⟨rows, hrows, hkeys⟩ := ok_of_bind hgold
  obtain ⟨free, hfree, hfreeKeys⟩ := ok_of_bind hgot
  rw [mapM_eq_ok_iff] at hkeys hfreeKeys
  have hlen : rows.length = expected.length := hkeys.length_eq
  have hlenGot : free.length = got.length := hfreeKeys.length_eq
  have hnumbered : RowsOf free got.zipIdx := by
    have h := hfreeKeys
    rw [← List.zipIdx_map_fst 0 got, List.forall₂_map_right_iff] at h
    exact h
  obtain ⟨row, hrow, hiff⟩ := unclaimedRow_eq hnumbered hkeys
  simp only [superSoft, size_of_elements hrows, size_of_elements hfree, isVoid_of_elements hrows,
    hrows, hfree, ok_bind]
  by_cases hfew : free.length < rows.length
  · refine ⟨tooFewRows rows.length free.length, by simp [hfew, pure, Except.pure], ?_⟩
    simp [tooFewRows]
    omega
  · rw [if_neg hfew]
    by_cases hvoid : rows.isEmpty = true
    · refine ⟨⟨true, "Empty Result Match"⟩, by simp [hvoid, pure, Except.pure], ?_⟩
      obtain rfl : rows = [] := List.isEmpty_iff.mp hvoid
      obtain rfl : expected = [] := List.length_eq_zero_iff.mp hlen.symm
      simp [assign]
    · rw [if_neg hvoid, hrow, ok_bind]
      cases row with
      | none =>
        refine ⟨_, rfl, ?_⟩
        simp only [true_iff]
        exact ⟨by omega, hiff.mp rfl⟩
      | some r =>
        refine ⟨_, rfl, ?_⟩
        simp only [Bool.false_eq_true, false_iff, not_and]
        intro _ hsome
        exact nomatch hiff.mpr hsome

/-! ## Rows held by those at their own positions -/

theorem HeldInPlace.tail {cells row : List Doc} {expected got : List (List Doc)}
    (h : HeldInPlace (cells :: expected) (row :: got)) : HeldInPlace expected got := by
  intro i c hc
  exact h (i + 1) c hc

theorem HeldInPlace.length_le {expected got : List (List Doc)} (h : HeldInPlace expected got) :
    expected.length ≤ got.length := by
  by_contra hlt
  have hget : expected[got.length]? = some (expected.get ⟨got.length, by omega⟩) := by simp
  obtain ⟨row, hrow, _⟩ := h _ _ hget
  simp at hrow

/-- Rows held in place take the positions one after another. When row `i` has its turn, those before
it are taken and the first free one is at position `i`. -/
theorem assign_of_heldInPlace {expected got : List (List Doc)} (n : Nat)
    (h : HeldInPlace expected got) :
    assign (got.zipIdx n) expected = some (List.range' n expected.length) := by
  induction expected generalizing got n with
  | nil => simp [assign]
  | cons cells expected ih =>
    obtain ⟨row, hrow, hwithin⟩ := h 0 cells rfl
    cases got with
    | nil => simp at hrow
    | cons head got =>
      obtain rfl : head = row := by simpa using hrow
      have hrest := ih (n + 1) h.tail
      simp [assign, takeRow, hwithin, hrest, List.range'_succ]

end QueryBench.Compare
