import Mathlib.Data.Finset.Card
import Mathlib.Data.List.FinRange
import Mathlib.Logic.Equiv.Basic
import QueryBench.Proofs.Compare.FirstFit
import QueryBench.Proofs.Doc.Same

/-!
# Every expected row has a predicted row of its own

A lenient comparison that holds gives every expected row a predicted row of its own with all its
cells. The search takes the first such row and never goes back, so it can miss a way to give out the
rows. It does not, if no predicted row has more different cells than an expected one: a row then
holds only its equals, and of these any one is as good as another.

Main definitions: `Contained`, `distinctCells`. Main statement: `superSoft_finds_injection`.
-/
set_option autoImplicit false

namespace QueryBench.Compare

/-- Every cell is the same as one of the others. -/
def Contained (cells others : List Doc) : Prop :=
  ∀ c ∈ cells, ∃ o ∈ others, c.same o = true

theorem cellsWithin_iff {cells others : List Doc} :
    cellsWithin cells others = true ↔ Contained cells others := by
  simp [cellsWithin, Contained]

/-! ## What was taken -/

theorem claimRow_some {cells : List Doc} {free left : List Doc}
    (h : claimRow cells free = .ok (some left)) :
    ∃ before other after others, free = before ++ other :: after ∧ left = before ++ after ∧
      keyCells other = .ok others ∧ Contained cells others := by
  induction free generalizing left with
  | nil => cases h
  | cons row rest ih =>
    rw [claimRow] at h
    obtain ⟨others, hothers, h⟩ := ok_of_bind h
    by_cases hwithin : cellsWithin cells others = true
    · rw [if_pos hwithin] at h
      cases h
      exact ⟨[], row, rest, others, rfl, rfl, hothers, cellsWithin_iff.1 hwithin⟩
    · rw [if_neg hwithin] at h
      obtain ⟨found, hfound, h⟩ := ok_of_bind h
      cases found with
      | none => cases h
      | some left' =>
        cases h
        obtain ⟨before, other, after, others, rfl, rfl, hother⟩ := ih hfound
        exact ⟨row :: before, other, after, others, rfl, rfl, hother⟩

/-- Both documents are rows of keys, and the first is contained in the second. -/
def RowContained (row other : Doc) : Prop :=
  ∃ cells others, keyCells row = .ok cells ∧ keyCells other = .ok others ∧ Contained cells others

theorem unclaimedRow_none {free : List (Doc × Nat)} {rows : List Doc}
    (hfree : (free.map Prod.snd).Nodup) (h : unclaimedRow (free.map Prod.fst) rows = .ok none) :
    ∃ places : List Nat, places.Nodup ∧
      List.Forall₂ (fun row i => ∃ other, (other, i) ∈ free ∧ RowContained row other) rows
        places := by
  induction rows generalizing free with
  | nil => exact ⟨[], .nil, .nil⟩
  | cons row rest ih =>
    rw [unclaimedRow] at h
    obtain ⟨cells, hcells, h⟩ := ok_of_bind h
    obtain ⟨found, hfound, h⟩ := ok_of_bind h
    cases found with
    | none => cases h
    | some left =>
      obtain ⟨before, other, after, others, hsplit, rfl, hothers, hcontained⟩ :=
        claimRow_some hfound
      obtain ⟨front, back, rfl, rfl, hback⟩ := List.map_eq_append_iff.1 hsplit
      obtain ⟨⟨other, i⟩, back, rfl, rfl, rfl⟩ := List.map_eq_cons_iff.1 hback
      have hsub : (front ++ back).Sublist (front ++ (other, i) :: back) :=
        (List.sublist_cons_self _ _).append_left front
      rw [← List.map_append] at h
      obtain ⟨places, hnodup, hheld⟩ := ih (hfree.sublist (hsub.map Prod.snd)) h
      have hi : i ∉ (front ++ back).map Prod.snd := by
        rw [List.map_append, List.map_cons, List.nodup_middle] at hfree
        rw [List.map_append]
        exact (List.nodup_cons.1 hfree).1
      refine ⟨i :: places, List.nodup_cons.2 ⟨?_, hnodup⟩, .cons ?_ (hheld.imp ?_)⟩
      · intro hmem
        obtain ⟨later, -, third, hthird, -⟩ := exists_mem_of_forall₂ hheld.flip hmem
        exact hi (List.mem_map.2 ⟨_, hthird, rfl⟩)
      · exact ⟨other, by simp, cells, others, hcells, hothers, hcontained⟩
      · rintro later k ⟨third, hthird, hcontained⟩
        exact ⟨third, hsub.subset hthird, hcontained⟩

theorem elements_of_size {d : Doc} {n : Nat} (h : d.size = .ok n) :
    ∃ items, d.elements = .ok items ∧ d.isVoid = items.isEmpty := by
  have hitems {items : List Doc} (hd : d.elements = .ok items) :
      ∃ items, d.elements = .ok items ∧ d.isVoid = items.isEmpty :=
    ⟨items, hd, isVoid_of_elements hd⟩
  cases d with
  | list xs => exact hitems rfl
  | text s => exact hitems rfl
  | record fields => exact hitems rfl
  | _ => cases h

theorem unclaimedRow_of_superSoft {gold predicted : Doc} {reason : Text}
    (h : superSoft gold predicted = .ok ⟨true, reason⟩) :
    ∃ rows free, gold.elements = .ok rows ∧ predicted.elements = .ok free ∧
      unclaimedRow free rows = .ok none := by
  rw [superSoft] at h
  obtain ⟨got, hgot, h⟩ := ok_of_bind h
  obtain ⟨expected, hexpected, h⟩ := ok_of_bind h
  obtain ⟨free, hfree, -⟩ := elements_of_size hgot
  obtain ⟨rows, hrows, hvoid⟩ := elements_of_size hexpected
  refine ⟨rows, free, hrows, hfree, ?_⟩
  by_cases hfew : got < expected
  · rw [if_pos hfew] at h
    cases h
  · rw [if_neg hfew, hvoid] at h
    by_cases hempty : rows.isEmpty = true
    · obtain rfl := List.isEmpty_iff.1 hempty
      rfl
    · rw [if_neg hempty, hrows, ok_bind, hfree, ok_bind] at h
      obtain ⟨row, hrow, h⟩ := ok_of_bind h
      cases row with
      | none => exact hrow
      | some row => cases h

/-! ## Places as a map of positions -/

theorem exists_injective {α : Type} {R : α → Nat → Prop} {rows : List α} {places : List Nat}
    {n : Nat} (hnodup : places.Nodup) (h : List.Forall₂ R rows places)
    (hlt : ∀ row i, R row i → i < n) :
    ∃ f : Fin rows.length → Fin n, Function.Injective f ∧ ∀ i, R (rows.get i) (f i) := by
  have hR (i : Fin rows.length) : R (rows.get i) (places.get (i.cast h.length_eq)) :=
    h.get i.isLt (h.length_eq ▸ i.isLt)
  refine ⟨fun i => ⟨places.get (i.cast h.length_eq), hlt _ _ (hR i)⟩, ?_, hR⟩
  intro i j hij
  have := List.nodup_iff_injective_get.1 hnodup (Fin.mk.inj hij)
  exact Fin.cast_injective _ this

theorem places_of_injective {α : Type} {R : α → Nat → Prop} {rows : List α} {n : Nat}
    {f : Fin rows.length → Fin n} (hf : Function.Injective f)
    (h : ∀ i, R (rows.get i) (f i)) :
    ∃ places : List Nat, places.Nodup ∧ List.Forall₂ R rows places := by
  refine ⟨List.ofFn fun i => (f i : Nat), List.nodup_ofFn.2 ?_, ?_⟩
  · intro i j hij
    exact hf (Fin.ext hij)
  · refine List.forall₂_iff_get.2 ⟨by simp, ?_⟩
    intro i hi hi'
    simpa using h ⟨i, hi⟩

/-- If no row is left unclaimed, every row has a place of its own among the others. -/
theorem injection_of_unclaimedRow {rows free : List Doc} (h : unclaimedRow free rows = .ok none) :
    ∃ f : Fin rows.length → Fin free.length, Function.Injective f ∧
      ∀ i, RowContained (rows.get i) (free.get (f i)) := by
  rw [← List.zipIdx_map_fst 0 free] at h
  have hnumbers : (free.zipIdx.map Prod.snd).Nodup := by
    rw [List.zipIdx_map_snd]
    exact List.nodup_range'
  obtain ⟨places, hnodup, hheld⟩ := unclaimedRow_none hnumbers h
  have hplace (row : Doc) (i : Nat)
      (h : ∃ other, (other, i) ∈ free.zipIdx ∧ RowContained row other) :
      ∃ hi : i < free.length, RowContained row (free.get ⟨i, hi⟩) := by
    obtain ⟨other, hother, hcontained⟩ := h
    have hat : free[i]? = some other := List.mem_zipIdx_iff_getElem?.1 hother
    obtain ⟨hi, rfl⟩ := List.getElem?_eq_some_iff.1 hat
    exact ⟨hi, hcontained⟩
  obtain ⟨f, hf, hcontained⟩ := exists_injective hnodup hheld fun row i h => (hplace row i h).1
  exact ⟨f, hf, fun i => (hplace _ _ (hcontained i)).2⟩

/-! ## Rows without more cells than they hold -/

/-- The cells of a row, of equal ones only the last. -/
def distinctCells : List Doc → List Doc
  | [] => []
  | c :: rest => if rest.any (c.same ·) then distinctCells rest else c :: distinctCells rest

/-- Can all cells be keys? -/
abbrev AreKeys (cells : List Doc) : Prop :=
  ∀ c ∈ cells, c.checkKey = .ok ()

/-- The keys of the cells that can be keys. -/
def keysOf (cells : List Doc) : Finset Doc.Key :=
  (cells.filterMap Doc.key?).toFinset

theorem mem_keysOf {cells : List Doc} {k : Doc.Key} :
    k ∈ keysOf cells ↔ ∃ c ∈ cells, c.key? = some k := by
  simp [keysOf]

theorem contained_iff {cells others : List Doc} (hcells : AreKeys cells) :
    Contained cells others ↔ (∀ c ∈ cells, c.key?.isSome) ∧ keysOf cells ⊆ keysOf others := by
  constructor
  · intro h
    constructor
    · intro c hc
      obtain ⟨o, -, hsame⟩ := h c hc
      obtain ⟨k, hk, -⟩ := (Doc.same_iff_key? (hcells c hc) o).1 hsame
      rw [hk]
      rfl
    · intro k hk
      obtain ⟨c, hc, hk⟩ := mem_keysOf.1 hk
      obtain ⟨o, ho, hsame⟩ := h c hc
      obtain ⟨k', hk', ho'⟩ := (Doc.same_iff_key? (hcells c hc) o).1 hsame
      obtain rfl : k = k' := Option.some.inj (hk.symm.trans hk')
      exact mem_keysOf.2 ⟨o, ho, ho'⟩
  · rintro ⟨hsome, hsub⟩ c hc
    obtain ⟨k, hk⟩ := Option.isSome_iff_exists.1 (hsome c hc)
    obtain ⟨o, ho, hok⟩ := mem_keysOf.1 (hsub (mem_keysOf.2 ⟨c, hc, hk⟩))
    exact ⟨o, ho, (Doc.same_iff_key? (hcells c hc) o).2 ⟨k, hk, hok⟩⟩

theorem Contained.trans {a b c : List Doc} (ha : AreKeys a) (hb : AreKeys b) (hab : Contained a b)
    (hbc : Contained b c) : Contained a c := by
  rw [contained_iff ha] at hab ⊢
  rw [contained_iff hb] at hbc
  exact ⟨hab.1, hab.2.trans hbc.2⟩

/-- There are as many different cells as keys, and each cell without a key differs from all. -/
theorem length_distinctCells {cells : List Doc} (hcells : AreKeys cells) :
    (distinctCells cells).length =
      (keysOf cells).card + (cells.filter (·.key?.isNone)).length := by
  induction cells with
  | nil => rfl
  | cons c rest ih =>
    obtain ⟨hc, hrest⟩ := List.forall_mem_cons.1 hcells
    have hany : rest.any (c.same ·) = true ↔ ∃ k ∈ keysOf rest, c.key? = some k := by
      simp only [List.any_eq_true, Doc.same_iff_key? hc, mem_keysOf]
      constructor
      · rintro ⟨o, ho, k, hk, hok⟩
        exact ⟨k, ⟨o, ho, hok⟩, hk⟩
      · rintro ⟨k, ⟨o, ho, hok⟩, hk⟩
        exact ⟨o, ho, k, hk, hok⟩
    cases hk : c.key? with
    | none =>
      have hnone : ¬ rest.any (c.same ·) = true := by
        rw [hany]
        rintro ⟨k, -, hk'⟩
        rw [hk] at hk'
        cases hk'
      have hkeys : keysOf (c :: rest) = keysOf rest := by simp [keysOf, hk]
      rw [distinctCells, if_neg hnone, List.length_cons, ih hrest, hkeys,
        List.filter_cons_of_pos (by simp [hk]), List.length_cons]
      omega
    | some k =>
      have hkeys : keysOf (c :: rest) = insert k (keysOf rest) := by simp [keysOf, hk]
      rw [distinctCells, hkeys, List.filter_cons_of_neg (by simp [hk])]
      by_cases hmem : k ∈ keysOf rest
      · rw [if_pos (hany.2 ⟨k, hmem, hk⟩), ih hrest, Finset.insert_eq_of_mem hmem]
      · have hnew : ¬ rest.any (c.same ·) = true := by
          rw [hany]
          rintro ⟨k', hmem', hk'⟩
          obtain rfl : k = k' := Option.some.inj (hk.symm.trans hk')
          exact hmem hmem'
        rw [if_neg hnew, List.length_cons, ih hrest, Finset.card_insert_of_notMem hmem]
        omega

/-- A row that is contained in one with no more different cells contains it too. -/
theorem Contained.symm_of_le {cells row : List Doc} (hcells : AreKeys cells) (hrow : AreKeys row)
    (hle : (distinctCells row).length ≤ (distinctCells cells).length) (h : Contained cells row) :
    Contained row cells := by
  obtain ⟨hsome, hsub⟩ := (contained_iff hcells).1 h
  have hnone : cells.filter (·.key?.isNone) = [] := by
    rw [List.filter_eq_nil_iff]
    intro c hc
    simp [Option.isSome_iff_ne_none.1 (hsome c hc)]
  rw [length_distinctCells hcells, length_distinctCells hrow, hnone, List.length_nil] at hle
  have hcard := Finset.card_le_card hsub
  have hkeys : keysOf cells = keysOf row := Finset.eq_of_subset_of_card_le hsub (by omega)
  refine (contained_iff hrow).2 ⟨?_, hkeys.symm.subset⟩
  have hempty : row.filter (·.key?.isNone) = [] := List.length_eq_zero_iff.1 (by omega)
  rw [List.filter_eq_nil_iff] at hempty
  intro c hc
  simpa [Option.isSome_iff_ne_none] using hempty c hc

theorem areKeys_of_forM {cells : List Doc} (h : cells.forM Doc.checkKey = .ok ()) :
    AreKeys cells := by
  induction cells with
  | nil => exact fun c hc => absurd hc List.not_mem_nil
  | cons c rest ih =>
    obtain ⟨_, hc, hrest⟩ := ok_of_bind h
    exact List.forall_mem_cons.2 ⟨hc, ih hrest⟩

theorem areKeys_of_keyCells {row : Doc} {cells : List Doc} (h : keyCells row = .ok cells) :
    AreKeys cells := by
  obtain ⟨items, -, h⟩ := ok_of_bind h
  obtain ⟨_, hkeys, h⟩ := ok_of_bind h
  cases h
  exact areKeys_of_forM hkeys

theorem areKeys_of_keyRows {rows : Doc} {listed : List (List Doc)}
    (h : keyRows rows = .ok listed) : ∀ cells ∈ listed, AreKeys cells := by
  obtain ⟨items, -, h⟩ := ok_of_bind h
  exact forall_mem_of_forall₂ (mapM_eq_ok_iff.1 h) fun _ _ _ => areKeys_of_keyCells

/-! ## Rows of which any is as good as another -/

/-- Rows that hold one expected row hold the same expected rows. -/
def Interchangeable (free : List (List Doc × Nat)) (expected : List (List Doc)) : Prop :=
  ∀ cells ∈ expected, ∀ others ∈ expected, ∀ i j, HeldBy free cells i → HeldBy free cells j →
    HeldBy free others i → HeldBy free others j

/-- A row that holds an expected one and has no more different cells holds just what that one
holds. So all rows that hold it are alike. -/
theorem interchangeable_of_le {expected got : List (List Doc)}
    (hexpected : ∀ cells ∈ expected, AreKeys cells) (hgot : ∀ row ∈ got, AreKeys row)
    (hle : ∀ cells ∈ expected, ∀ row ∈ got,
      (distinctCells row).length ≤ (distinctCells cells).length) :
    Interchangeable got.zipIdx expected := by
  intro cells hcells others hothers i j hi hj hoi
  obtain ⟨row, hrow, hwithin⟩ := heldBy_zipIdx.1 hi
  obtain ⟨row', hrow', hwithin'⟩ := heldBy_zipIdx.1 hj
  obtain ⟨same, hsame, hother⟩ := heldBy_zipIdx.1 hoi
  obtain rfl : row = same := Option.some.inj (hrow.symm.trans hsame)
  have hmem := List.mem_of_getElem? hrow
  rw [cellsWithin_iff] at hwithin hwithin' hother
  -- From `others` to the first row, back to `cells`, and on to the second row.
  have hback := hwithin.symm_of_le (hexpected cells hcells) (hgot row hmem)
    (hle cells hcells row hmem)
  have hcells' := hother.trans (hexpected others hothers) (hgot row hmem) hback
  have hall := hcells'.trans (hexpected others hothers) (hexpected cells hcells) hwithin'
  exact heldBy_zipIdx.2 ⟨row', hrow', cellsWithin_iff.2 hall⟩

/-- If rows are interchangeable, first fit gets to the end whenever there is a way to give them out.
When it takes another row than the one meant, the two change their roles. -/
theorem assign_of_interchangeable {free : List (List Doc × Nat)} {expected : List (List Doc)}
    {places : List Nat} (hfree : Ascending free) (hnodup : places.Nodup)
    (hheld : List.Forall₂ (HeldBy free) expected places) (hchange : Interchangeable free expected) :
    (assign free expected).isSome = true := by
  induction expected generalizing free places with
  | nil => rfl
  | cons cells rest ih =>
    obtain _ | @⟨_, i, _, places, hi, hrest⟩ := hheld
    obtain ⟨hne, hnodup⟩ := List.nodup_cons.1 hnodup
    obtain ⟨j, left, ht⟩ := takeRow_of_heldBy hi
    obtain ⟨hj, -, hsub, -⟩ := takeRow_least hfree ht
    have hleft := heldBy_left hfree ht
    have hplaces : List.Forall₂ (HeldBy left) rest (places.map (Equiv.swap i j)) := by
      rw [List.forall₂_map_right_iff, List.forall₂_iff_zip]
      refine ⟨hrest.length_eq, ?_⟩
      intro others k hk
      have hmem := List.of_mem_zip hk
      have hheld := (List.forall₂_iff_zip.1 hrest).2 hk
      have hki : k ≠ i := fun h => hne (h ▸ hmem.2)
      by_cases hkj : k = j
      · subst hkj
        rw [Equiv.swap_apply_right]
        refine (hleft _ _).2 ⟨?_, hki.symm⟩
        exact hchange cells (by simp) others (by simp [hmem.1]) k i hj hi hheld
      · rw [Equiv.swap_apply_of_ne_of_ne hki hkj]
        exact (hleft _ _).2 ⟨hheld, hkj⟩
    have hfurther : Interchangeable left rest := by
      intro one hone other hother a b ha hb hoa
      refine (hleft _ _).2 ⟨?_, ((hleft _ _).1 hb).2⟩
      exact hchange one (by simp [hone]) other (by simp [hother]) a b ((hleft _ _).1 ha).1
        ((hleft _ _).1 hb).1 ((hleft _ _).1 hoa).1
    have hsome := ih (hfree.sublist hsub) (hnodup.map (Equiv.swap i j).injective) hplaces hfurther
    rw [assign, ht]
    simpa using hsome

/-- A lenient comparison that holds has found for every expected row a predicted row of its own in
which it is contained. Conversely it finds such rows, if there are any, whenever no predicted row
has more different cells than an expected one. -/
theorem superSoft_finds_injection :
    (∀ (gold predicted : Doc) (reason : Text), superSoft gold predicted = .ok ⟨true, reason⟩ →
      ∃ rows free, gold.elements = .ok rows ∧ predicted.elements = .ok free ∧
        ∃ f : Fin rows.length → Fin free.length, Function.Injective f ∧
          ∀ i, RowContained (rows.get i) (free.get (f i))) ∧
    (∀ (gold predicted : Doc) (expected got : List (List Doc)),
      keyRows gold = .ok expected → keyRows predicted = .ok got →
      (∀ cells ∈ expected, ∀ row ∈ got,
        (distinctCells row).length ≤ (distinctCells cells).length) →
      (∃ f : Fin expected.length → Fin got.length, Function.Injective f ∧
        ∀ i, Contained (expected.get i) (got.get (f i))) →
      ∃ reason, superSoft gold predicted = .ok ⟨true, reason⟩) := by
  constructor
  · intro gold predicted reason h
    obtain ⟨rows, free, hrows, hfree, hnone⟩ := unclaimedRow_of_superSoft h
    exact ⟨rows, free, hrows, hfree, injection_of_unclaimedRow hnone⟩
  · intro gold predicted expected got hgold hgot hle
    rintro ⟨f, hf, hcontained⟩
    have hheld (i : Fin expected.length) : HeldBy got.zipIdx (expected.get i) (f i) :=
      heldBy_zipIdx.2 ⟨got.get (f i), by simp, cellsWithin_iff.2 (hcontained i)⟩
    obtain ⟨places, hnodup, hplaces⟩ := places_of_injective hf hheld
    have hchange : Interchangeable got.zipIdx expected :=
      interchangeable_of_le (areKeys_of_keyRows hgold) (areKeys_of_keyRows hgot) hle
    exact (superSoft_iff_assign hgold hgot).2
      (assign_of_interchangeable (ascending_zipIdx got) hnodup hplaces hchange)

/-- Rows with cells that are the same, in one row and in others. -/
def alikeRows : Doc :=
  .list [.list [.int 1, .text "a"], .list [.text "a", .bool true, .int 1]]

/-- Rows of which two hold those of `alikeRows`, and each of them both. -/
def holdingRows : Doc :=
  .list [.list [.text "a", .bool true], .list [.text "z"], .list [.int 1, .text "a", .int 1]]

/-- Where `holdingRows` has the rows that hold those of `alikeRows`. -/
def holdingPlace (i : Fin 2) : Fin 3 :=
  if i.val = 0 then 2 else 0

theorem superSoft_finds_injection_alike :
    (∃ reason, superSoft alikeRows holdingRows = .ok ⟨true, reason⟩) ∧
    ∃ rows free, alikeRows.elements = .ok rows ∧ holdingRows.elements = .ok free ∧
      ∃ f : Fin rows.length → Fin free.length, Function.Injective f ∧
        ∀ i, RowContained (rows.get i) (free.get (f i)) := by
  obtain ⟨hinjection, hfinds⟩ := superSoft_finds_injection
  have hgold : keyRows alikeRows =
      .ok [[.int 1, .text "a"], [.text "a", .bool true, .int 1]] := rfl
  have hgot : keyRows holdingRows =
      .ok [[.text "a", .bool true], [.text "z"], [.int 1, .text "a", .int 1]] := rfl
  have hinjective : Function.Injective holdingPlace := by
    intro i j
    revert i j
    decide
  obtain ⟨reason, h⟩ := hfinds alikeRows holdingRows _ _ hgold hgot (by decide)
    ⟨holdingPlace, hinjective, fun i => cellsWithin_iff.1 (by revert i; decide)⟩
  exact ⟨⟨reason, h⟩, hinjection _ _ _ h⟩

end QueryBench.Compare
