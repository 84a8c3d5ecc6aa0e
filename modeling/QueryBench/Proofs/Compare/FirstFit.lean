import Mathlib.Data.List.NodupEquivFin
import QueryBench.Proofs.Compare.Assignment

/-!
# What first fit finds

The lenient comparison gives every expected row the first free row that holds it. It gets to the end
exactly if the rows can be given out in such a way that no expected row is passed over: a row that
lies before its own and is kept for a later one does not hold it. Such a way is kept when expected
rows are left out, when rows come in between, and when rows get further cells, unless these make an
expected row be held by a row that is kept for a later one.

Main definitions: `HeldBy`, `Undisputed`. Main statements: `superSoft_iff`, `superSoft_extra_rows`,
`superSoft_extra_cells`.
-/
set_option autoImplicit false

namespace QueryBench.Compare

/-- Among numbered rows, number `i` holds the given cells. -/
def HeldBy (free : List (List Doc × Nat)) (cells : List Doc) (i : Nat) : Prop :=
  ∃ row, (row, i) ∈ free ∧ cellsWithin cells row = true

/-- Every expected row has the number of a row of its own that holds it, and no row that is before
it and kept for a later expected row holds it too. -/
structure Undisputed (free pairs : List (List Doc × Nat)) : Prop where
  held : ∀ p ∈ pairs, HeldBy free p.1 p.2
  apart : pairs.Pairwise fun earlier later => earlier.2 ≠ later.2
  kept : pairs.Pairwise fun earlier later => later.2 < earlier.2 → ¬ HeldBy free earlier.1 later.2

/-- Do the numbers of the rows go up? -/
abbrev Ascending (free : List (List Doc × Nat)) : Prop :=
  free.Pairwise fun a b => a.2 < b.2

theorem ascending_zipIdx (got : List (List Doc)) : Ascending got.zipIdx := by
  have h : (got.zipIdx.map Prod.snd).Pairwise (· < ·) := by
    rw [List.zipIdx_map_snd]
    exact List.pairwise_lt_range'
  exact List.pairwise_map.1 h

theorem heldBy_zipIdx {got : List (List Doc)} {cells : List Doc} {i : Nat} :
    HeldBy got.zipIdx cells i ↔ ∃ row, got[i]? = some row ∧ cellsWithin cells row = true := by
  simp only [HeldBy, List.mem_zipIdx_iff_getElem?]

/-! ## One turn of the search -/

theorem takeRow_some {cells : List Doc} {free left : List (List Doc × Nat)} {i : Nat}
    (h : takeRow cells free = some (i, left)) :
    ∃ before row after, free = before ++ (row, i) :: after ∧ left = before ++ after ∧
      cellsWithin cells row = true ∧ ∀ p ∈ before, cellsWithin cells p.1 = false := by
  induction free generalizing left with
  | nil => cases h
  | cons p rest ih =>
    obtain ⟨row, j⟩ := p
    rw [takeRow] at h
    by_cases hrow : cellsWithin cells row = true
    · rw [if_pos hrow] at h
      cases h
      exact ⟨[], row, rest, rfl, rfl, hrow, by simp⟩
    · rw [if_neg hrow] at h
      obtain ⟨⟨k, others⟩, hrest, h⟩ := Option.map_eq_some_iff.1 h
      cases h
      obtain ⟨before, found, after, rfl, rfl, hfound, hbefore⟩ := ih hrest
      refine ⟨(row, j) :: before, found, after, rfl, rfl, hfound, ?_⟩
      intro p hp
      rcases List.mem_cons.1 hp with rfl | hp
      · exact Bool.of_not_eq_true hrow
      · exact hbefore p hp

theorem takeRow_of_heldBy {cells : List Doc} {free : List (List Doc × Nat)} {i : Nat}
    (h : HeldBy free cells i) : ∃ j left, takeRow cells free = some (j, left) := by
  obtain ⟨row, hmem, hrow⟩ := h
  induction free with
  | nil => cases hmem
  | cons p rest ih =>
    obtain ⟨first, j⟩ := p
    rw [takeRow]
    by_cases hfirst : cellsWithin cells first = true
    · exact ⟨j, rest, if_pos hfirst⟩
    · rw [if_neg hfirst]
      rcases List.mem_cons.1 hmem with heq | hmem
      · cases heq
        exact absurd hrow hfirst
      · obtain ⟨k, left, hleft⟩ := ih hmem
        exact ⟨k, (first, j) :: left, by rw [hleft]; rfl⟩

/-- Of the rows that hold the cells, the one with the least number is taken, and all others are
left. -/
theorem takeRow_least {cells : List Doc} {free left : List (List Doc × Nat)} {i : Nat}
    (hfree : Ascending free) (h : takeRow cells free = some (i, left)) :
    HeldBy free cells i ∧ (∀ j, HeldBy free cells j → i ≤ j) ∧ left.Sublist free ∧
      ∀ p, p ∈ left ↔ p ∈ free ∧ p.2 ≠ i := by
  obtain ⟨before, row, after, rfl, rfl, hrow, hbefore⟩ := takeRow_some h
  obtain ⟨-, htail, hacross⟩ := List.pairwise_append.1 hfree
  obtain ⟨hafter, -⟩ := List.pairwise_cons.1 htail
  have hlt {p : List Doc × Nat} (hp : p ∈ before) : p.2 < i := hacross p hp (row, i) (by simp)
  refine ⟨⟨row, by simp, hrow⟩, ?_, ?_, ?_⟩
  · rintro j ⟨other, hmem, hother⟩
    rcases List.mem_append.1 hmem with hmem | hmem
    · rw [hbefore _ hmem] at hother
      cases hother
    · rcases List.mem_cons.1 hmem with heq | hmem
      · cases heq
        exact Nat.le_refl i
      · exact Nat.le_of_lt (hafter _ hmem)
  · exact (List.sublist_cons_self _ _).append_left before
  · intro p
    simp only [List.mem_append, List.mem_cons]
    constructor
    · rintro (hp | hp)
      · exact ⟨.inl hp, Nat.ne_of_lt (hlt hp)⟩
      · exact ⟨.inr (.inr hp), Nat.ne_of_gt (hafter p hp)⟩
    · rintro ⟨hp | rfl | hp, hne⟩
      · exact .inl hp
      · exact absurd rfl hne
      · exact .inr hp

theorem heldBy_left {cells : List Doc} {free left : List (List Doc × Nat)} {i : Nat}
    (hfree : Ascending free) (h : takeRow cells free = some (i, left)) (others : List Doc)
    (j : Nat) : HeldBy left others j ↔ HeldBy free others j ∧ j ≠ i := by
  obtain ⟨-, -, -, hleft⟩ := takeRow_least hfree h
  constructor
  · rintro ⟨row, hmem, hrow⟩
    exact ⟨⟨row, ((hleft _).1 hmem).1, hrow⟩, ((hleft _).1 hmem).2⟩
  · rintro ⟨⟨row, hmem, hrow⟩, hne⟩
    exact ⟨row, (hleft _).2 ⟨hmem, hne⟩, hrow⟩

/-! ## The whole search -/

/-- What the search gives out is undisputed: a row that holds an earlier expected row would have
been taken for it. -/
theorem undisputed_of_assign {free : List (List Doc × Nat)} {expected : List (List Doc)}
    {places : List Nat} (hfree : Ascending free) (h : assign free expected = some places) :
    places.length = expected.length ∧ Undisputed free (expected.zip places) := by
  induction expected generalizing free places with
  | nil =>
    cases h
    exact ⟨rfl, by simp, .nil, .nil⟩
  | cons cells rest ih =>
    rw [assign] at h
    cases ht : takeRow cells free with
    | none =>
      rw [ht] at h
      cases h
    | some p =>
      obtain ⟨i, left⟩ := p
      rw [ht] at h
      obtain ⟨places, hrest, rfl⟩ := Option.map_eq_some_iff.1 h
      obtain ⟨hheld, hleast, hsub, -⟩ := takeRow_least hfree ht
      obtain ⟨hlen, hlater⟩ := ih (hfree.sublist hsub) hrest
      have hleft := heldBy_left hfree ht
      refine ⟨by simp [hlen], ?_, ?_, ?_⟩
      · intro p hp
        rcases List.mem_cons.1 hp with rfl | hp
        · exact hheld
        · exact ((hleft _ _).1 (hlater.held p hp)).1
      · refine .cons ?_ hlater.apart
        intro p hp
        exact ((hleft _ _).1 (hlater.held p hp)).2.symm
      · refine .cons ?_ (hlater.kept.imp_of_mem ?_)
        · intro p _ hlt hheld'
          exact absurd (hleast _ hheld') (Nat.not_le_of_lt hlt)
        · intro earlier later _ hmem hkept hlt hheld'
          exact hkept hlt ((hleft _ _).2 ⟨hheld', ((hleft _ _).1 (hlater.held later hmem)).2⟩)

/-- The search gets to the end if the rows can be given out without dispute. It may take another row
than the one given, but only one that nobody else needs. -/
theorem assign_of_undisputed {free pairs : List (List Doc × Nat)} (hfree : Ascending free)
    (h : Undisputed free pairs) : (assign free (pairs.map Prod.fst)).isSome = true := by
  induction pairs generalizing free with
  | nil => rfl
  | cons p rest ih =>
    obtain ⟨cells, i⟩ := p
    have hheld := h.held (cells, i) (by simp)
    obtain ⟨hapart, hapartRest⟩ := List.pairwise_cons.1 h.apart
    obtain ⟨hkept, hkeptRest⟩ := List.pairwise_cons.1 h.kept
    obtain ⟨j, left, ht⟩ := takeRow_of_heldBy hheld
    obtain ⟨hheld', hleast, hsub, -⟩ := takeRow_least hfree ht
    have hleft := heldBy_left hfree ht
    have hfurther : Undisputed left rest := by
      refine ⟨?_, hapartRest, hkeptRest.imp ?_⟩
      · intro q hq
        refine (hleft _ _).2 ⟨h.held q (by simp [hq]), ?_⟩
        rintro rfl
        have hne : i ≠ q.2 := hapart q hq
        have hlt : q.2 < i := lt_of_le_of_ne (hleast i hheld) hne.symm
        exact hkept q hq hlt hheld'
      · intro earlier later hkept hlt hheld
        exact hkept hlt ((hleft _ _).1 hheld).1
    have hrest := ih (hfree.sublist hsub) hfurther
    rw [List.map_cons, assign, ht]
    simpa using hrest

/-! ## The verdict -/

theorem Undisputed.length_le {got : List (List Doc)} {pairs : List (List Doc × Nat)}
    (h : Undisputed got.zipIdx pairs) : pairs.length ≤ got.length := by
  have hnodup : (pairs.map Prod.snd).Nodup := List.pairwise_map.2 h.apart
  have hsub : pairs.map Prod.snd ⊆ List.range got.length := by
    intro i hi
    obtain ⟨p, hp, rfl⟩ := List.mem_map.1 hi
    obtain ⟨row, hrow, -⟩ := heldBy_zipIdx.1 (h.held p hp)
    exact List.mem_range.2 (List.getElem?_eq_some_iff.1 hrow).1
  simpa using (List.subperm_of_subset hnodup hsub).length_le

/-- The lenient comparison of rows of keys holds exactly if the search gets to the end. -/
theorem superSoft_iff_assign {gold predicted : Doc} {expected got : List (List Doc)}
    (hgold : keyRows gold = .ok expected) (hgot : keyRows predicted = .ok got) :
    (∃ reason, superSoft gold predicted = .ok ⟨true, reason⟩) ↔
      (assign got.zipIdx expected).isSome = true := by
  obtain ⟨⟨holds, text⟩, hverdict, hiff⟩ := superSoft_eq hgold hgot
  rw [hverdict]
  constructor
  · rintro ⟨reason, h⟩
    cases h
    exact (hiff.1 rfl).2
  · intro hsome
    obtain ⟨places, hplaces⟩ := Option.isSome_iff_exists.1 hsome
    obtain ⟨hlen, h⟩ := undisputed_of_assign (ascending_zipIdx got) hplaces
    have hle := h.length_le
    rw [List.length_zip] at hle
    obtain rfl : holds = true := hiff.2 ⟨by omega, hsome⟩
    exact ⟨text, rfl⟩

/-- The lenient comparison of rows of keys holds exactly if the predicted rows can be given to the
expected ones without dispute. -/
theorem superSoft_iff {gold predicted : Doc} {expected got : List (List Doc)}
    (hgold : keyRows gold = .ok expected) (hgot : keyRows predicted = .ok got) :
    (∃ reason, superSoft gold predicted = .ok ⟨true, reason⟩) ↔
      ∃ pairs, pairs.map Prod.fst = expected ∧ Undisputed got.zipIdx pairs := by
  rw [superSoft_iff_assign hgold hgot]
  constructor
  · intro hsome
    obtain ⟨places, hplaces⟩ := Option.isSome_iff_exists.1 hsome
    obtain ⟨hlen, h⟩ := undisputed_of_assign (ascending_zipIdx got) hplaces
    exact ⟨expected.zip places, List.map_fst_zip (by omega), h⟩
  · rintro ⟨pairs, rfl, h⟩
    exact assign_of_undisputed (ascending_zipIdx got) h

/-! ## Further rows -/

theorem Undisputed.sublist {free pairs fewer : List (List Doc × Nat)} (h : Undisputed free pairs)
    (hfewer : fewer.Sublist pairs) : Undisputed free fewer :=
  ⟨fun p hp => h.held p (hfewer.subset hp), h.apart.sublist hfewer, h.kept.sublist hfewer⟩

theorem Undisputed.renumber {free free' pairs : List (List Doc × Nat)} (number : Nat ↪o Nat)
    (hheld : ∀ cells i, HeldBy free' cells (number i) ↔ HeldBy free cells i)
    (h : Undisputed free pairs) :
    Undisputed free' (pairs.map fun p => (p.1, number p.2)) := by
  refine ⟨?_, List.pairwise_map.2 (h.apart.imp ?_), List.pairwise_map.2 (h.kept.imp ?_)⟩
  · intro p hp
    obtain ⟨q, hq, rfl⟩ := List.mem_map.1 hp
    exact (hheld _ _).2 (h.held q hq)
  · intro earlier later hne heq
    exact hne (number.injective heq)
  · intro earlier later hkept hlt hheld'
    exact hkept (number.lt_iff_lt.1 hlt) ((hheld _ _).1 hheld')

/-- The lenient comparison still holds when expected rows are left out and when predicted rows come
in between, before or after the others. -/
theorem superSoft_extra_rows {gold predicted gold' predicted' : Doc}
    {expected got expected' got' : List (List Doc)}
    (hgold : keyRows gold = .ok expected) (hgot : keyRows predicted = .ok got)
    (hgold' : keyRows gold' = .ok expected') (hgot' : keyRows predicted' = .ok got')
    (hfewer : expected'.Sublist expected) (hmore : got.Sublist got')
    (h : ∃ reason, superSoft gold predicted = .ok ⟨true, reason⟩) :
    ∃ reason, superSoft gold' predicted' = .ok ⟨true, reason⟩ := by
  obtain ⟨pairs, rfl, h⟩ := (superSoft_iff hgold hgot).1 h
  obtain ⟨fewer, hsub, rfl⟩ := List.sublist_map_iff.1 hfewer
  obtain ⟨number, hnumber⟩ := List.sublist_iff_exists_orderEmbedding_getElem?_eq.1 hmore
  have hheld (cells : List Doc) (i : Nat) :
      HeldBy got'.zipIdx cells (number i) ↔ HeldBy got.zipIdx cells i := by
    rw [heldBy_zipIdx, heldBy_zipIdx, hnumber]
  refine (superSoft_iff hgold' hgot').2 ⟨_, ?_, (h.sublist hsub).renumber number hheld⟩
  rw [List.map_map]
  rfl

def threeRows : Doc :=
  .list [.list [.text "a"], .list [.text "b"], .list [.text "c"]]

/-- The rows of `threeRows` from the last to the first. -/
def threeRowsBack : Doc :=
  .list [.list [.text "c"], .list [.text "b"], .list [.text "a"]]

/-- The rows of `threeRowsBack` with two more, the first of which holds both outer rows. -/
def fiveRows : Doc :=
  .list [.list [.text "c", .text "a"], .list [.text "c"], .list [.text "z"], .list [.text "b"],
    .list [.text "a"]]

theorem superSoft_extra_rows_rerouted :
    (∃ reason, superSoft threeRows threeRowsBack = .ok ⟨true, reason⟩) ∧
    ∃ reason, superSoft (.list [.list [.text "a"], .list [.text "c"]]) fiveRows =
      .ok ⟨true, reason⟩ := by
  have hgold : keyRows threeRows = .ok [[.text "a"], [.text "b"], [.text "c"]] := rfl
  have hgot : keyRows threeRowsBack = .ok [[.text "c"], [.text "b"], [.text "a"]] := rfl
  have hgold' : keyRows (.list [.list [.text "a"], .list [.text "c"]]) =
      .ok [[.text "a"], [.text "c"]] := rfl
  have hgot' : keyRows fiveRows =
      .ok [[.text "c", .text "a"], [.text "c"], [.text "z"], [.text "b"], [.text "a"]] := rfl
  have h : ∃ reason, superSoft threeRows threeRowsBack = .ok ⟨true, reason⟩ := ⟨_, rfl⟩
  refine ⟨h, superSoft_extra_rows hgold hgot hgold' hgot' ?_ ?_ h⟩
  · exact .cons_cons _ (.cons _ (.refl _))
  · exact .cons _ (.cons_cons _ (.cons _ (.refl _)))

/-! ## Further cells -/

theorem cellsWithin_of_prefix {cells row longer : List Doc} (hrow : row <+: longer)
    (h : cellsWithin cells row = true) : cellsWithin cells longer = true := by
  rw [cellsWithin, List.all_eq_true] at h ⊢
  intro c hc
  obtain ⟨o, ho, hsame⟩ := List.any_eq_true.1 (h c hc)
  exact List.any_eq_true.2 ⟨o, hrow.subset ho, hsame⟩

theorem heldBy_of_longer {got got' : List (List Doc)} (hrows : List.Forall₂ (· <+: ·) got got')
    {cells : List Doc} {i : Nat} (h : HeldBy got.zipIdx cells i) : HeldBy got'.zipIdx cells i := by
  obtain ⟨row, hrow, hwithin⟩ := heldBy_zipIdx.1 h
  obtain ⟨hlt, rfl⟩ := List.getElem?_eq_some_iff.1 hrow
  have hlt' : i < got'.length := hrows.length_eq ▸ hlt
  exact heldBy_zipIdx.2 ⟨got'[i], List.getElem?_eq_getElem hlt',
    cellsWithin_of_prefix (hrows.get hlt hlt') hwithin⟩

/-- When the predicted rows get further cells, every expected row is still held by the row that it
took. The comparison holds again, if a row that was taken by a later expected row, and lies before
the one that an earlier expected row took, does not come to hold that earlier one. -/
theorem superSoft_extra_cells {gold predicted longer : Doc} {expected got got' : List (List Doc)}
    (hgold : keyRows gold = .ok expected) (hgot : keyRows predicted = .ok got)
    (hlonger : keyRows longer = .ok got') (hrows : List.Forall₂ (· <+: ·) got got')
    (h : ∃ reason, superSoft gold predicted = .ok ⟨true, reason⟩) :
    ∃ places, assign got.zipIdx expected = some places ∧ places.Nodup ∧
      List.Forall₂ (HeldBy got'.zipIdx) expected places ∧
      ((expected.zip places).Pairwise
          (fun earlier later => later.2 < earlier.2 → ¬ HeldBy got'.zipIdx earlier.1 later.2) →
        ∃ reason, superSoft gold longer = .ok ⟨true, reason⟩) := by
  obtain ⟨places, hplaces⟩ := Option.isSome_iff_exists.1 ((superSoft_iff_assign hgold hgot).1 h)
  obtain ⟨hlen, hgiven⟩ := undisputed_of_assign (ascending_zipIdx got) hplaces
  have hheld : ∀ p ∈ expected.zip places, HeldBy got'.zipIdx p.1 p.2 := fun p hp =>
    heldBy_of_longer hrows (hgiven.held p hp)
  refine ⟨places, hplaces, ?_, ?_, ?_⟩
  · have hnodup : ((expected.zip places).map Prod.snd).Nodup := List.pairwise_map.2 hgiven.apart
    rwa [List.map_snd_zip (by omega)] at hnodup
  · exact List.forall₂_iff_zip.2 ⟨hlen.symm, fun hp => hheld _ hp⟩
  · intro hkept
    refine (superSoft_iff hgold hlonger).2 ⟨expected.zip places, ?_, hheld, hgiven.apart, hkept⟩
    exact List.map_fst_zip (by omega)

def twoRows : Doc :=
  .list [.list [.text "a"], .list [.text "b"]]

/-- Rows that hold those of `twoRows` in the other order. -/
def swapped : Doc :=
  .list [.list [.text "x", .text "b"], .list [.text "x", .text "a"]]

theorem superSoft_extra_cells_swapped :
    ∃ reason, superSoft twoRows (.list [.list [.text "x", .text "b", .text "z"],
      .list [.text "x", .text "a", .text "b"]]) = .ok ⟨true, reason⟩ := by
  have hgold : keyRows twoRows = .ok [[.text "a"], [.text "b"]] := rfl
  have hgot : keyRows swapped = .ok [[.text "x", .text "b"], [.text "x", .text "a"]] := rfl
  have hlonger : keyRows (.list [.list [.text "x", .text "b", .text "z"],
      .list [.text "x", .text "a", .text "b"]]) =
        .ok [[.text "x", .text "b", .text "z"], [.text "x", .text "a", .text "b"]] := rfl
  obtain ⟨places, hplaces, -, -, hagain⟩ := superSoft_extra_cells hgold hgot hlonger
    (.cons ⟨[.text "z"], rfl⟩ (.cons ⟨[.text "b"], rfl⟩ .nil)) ⟨_, rfl⟩
  obtain rfl : [1, 0] = places := Option.some.inj hplaces
  refine hagain (.cons ?_ (.cons (by simp) .nil))
  intro later hlater _ hheld
  obtain rfl : later = ([.text "b"], 0) := by simpa using hlater
  obtain ⟨row, hrow, hwithin⟩ := heldBy_zipIdx.1 hheld
  obtain rfl : [Doc.text "x", .text "b", .text "z"] = row := Option.some.inj hrow
  cases hwithin

/-- Further cells can spoil a comparison that holds: the first row comes to hold the first expected
row too, and the second expected row is left without one. -/
theorem extra_cells_spoil :
    ∃ longer got got', keyRows swapped = .ok got ∧ keyRows longer = .ok got' ∧
      List.Forall₂ (· <+: ·) got got' ∧
      (∃ reason, superSoft twoRows swapped = .ok ⟨true, reason⟩) ∧
      ¬ ∃ reason, superSoft twoRows longer = .ok ⟨true, reason⟩ := by
  refine ⟨.list [.list [.text "x", .text "b", .text "a"], .list [.text "x", .text "a", .text "y"]],
    _, _, rfl, rfl, ?_, ⟨_, rfl⟩, ?_⟩
  · exact .cons ⟨[.text "a"], rfl⟩ (.cons ⟨[.text "y"], rfl⟩ .nil)
  · rintro ⟨reason, h⟩
    cases h

end QueryBench.Compare
