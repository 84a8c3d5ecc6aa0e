import QueryBench.Proofs.Json.Torn

/-!
# Documents that were read

The reader sets the fields of a record one by one, so a key that occurs again takes the place of the
first one, and it refuses a whole number of too many digits. To write such a document and to read it
again changes nothing.

Main definition: `Doc.Plain`. Main statements: `plain_of_read` and `merged_of_read`.
-/
set_option autoImplicit false

namespace QueryBench

namespace Doc

/-- Documents without repeated keys whose whole numbers are short. -/
inductive Plain : Doc → Prop where
  | null : Plain .null
  | bool (b : Bool) : Plain (.bool b)
  | int {n : Int} (h : (Doc.int n).Short) : Plain (.int n)
  | real (x : Float) : Plain (.real x)
  | text (s : Text) : Plain (.text s)
  | list {items : List Doc} (h : ∀ d ∈ items, Plain d) : Plain (.list items)
  | record {fields : List (Text × Doc)} (hkeys : (fields.map Prod.fst).Nodup)
      (h : ∀ f ∈ fields, Plain f.2) : Plain (.record fields)

namespace Plain

theorem merged {d : Doc} (h : d.Plain) : d.merged = d := by
  induction h with
  | null | bool | int | real | text => rfl
  | list _ ih => rw [Doc.merged, mergedItems_eq, List.map_congr_left ih, List.map_id']
  | @record fields hkeys _ ih =>
    have hsame : ∀ f ∈ fields, (f.1, f.2.merged) = f := fun f hf => by rw [ih f hf]
    rw [merged_record hkeys, List.map_congr_left hsame, List.map_id']

theorem short {d : Doc} (h : d.Plain) : d.Short := by
  induction h with
  | int h => exact h
  | list _ ih => exact short_list.2 ih
  | record _ _ ih => exact short_record.2 ih
  | null | bool | real | text => trivial

section
variable {fields : List (Text × Doc)} (h : (Doc.record fields).Plain)
include h

theorem put (k : Text) {v : Doc} (hv : v.Plain) : (Doc.record (Doc.put fields k v)).Plain := by
  cases h with
  | record hkeys hfields =>
    exact .record (nodup_put hkeys k v) (forall_mem_put (P := fun f => f.2.Plain) hfields k hv)

theorem find? (k : Text) {default : Doc} (hdefault : default.Plain) :
    ((Doc.find? fields k).getD default).Plain := by
  cases h with
  | record hkeys hfields =>
    cases hfind : Doc.find? fields k with
    | none => exact hdefault
    | some v => exact hfields (k, v) (mem_of_find? hfind)

end

end Plain

end Doc

namespace Json

theorem digitsValue_lt {ds : Text} (hds : ∀ g ∈ ds, isDigit g = true) :
    digitsValue ds < 10 ^ ds.length := by
  induction ds using List.reverseRecOn with
  | nil => exact Nat.one_pos
  | append_singleton ds g ih =>
    obtain ⟨hds, hg⟩ := List.forall_mem_append.1 hds
    have hg := hg g (List.mem_singleton_self g)
    simp only [isDigit, Bool.and_eq_true, decide_eq_true_eq] at hg
    have h0 : '0'.toNat = 48 := rfl
    have h9 : '9'.toNat = 57 := rfl
    have hvalue : digitsValue (ds ++ [g]) = 10 * digitsValue ds + (g.code - 48) := by
      simp [digitsValue, List.foldl_append]
    have ih := ih hds
    rw [hvalue, List.length_append, List.length_singleton, Nat.pow_succ]
    omega

theorem plain_nearestValue {n : Numeral} (hdigits : ∀ g ∈ n.whole, isDigit g = true) {d : Doc}
    (h : nearestValue n = .ok d) : d.Plain := by
  unfold nearestValue at h
  split at h
  · split at h
    next => cases h
    next hlength =>
      cases h
      have hlt : digitsValue n.whole < 10 ^ Number.numeralLimit :=
        Nat.lt_of_lt_of_le (digitsValue_lt hdigits)
          (Nat.pow_le_pow_right (by decide) (Nat.le_of_not_lt hlength))
      refine .int ?_
      rw [Doc.Short]
      generalize Number.numeralLimit = limit at hlt ⊢
      split <;> omega
  · cases h
    exact .real _

theorem plain_readWord? {c c' : Cursor} {d : Doc} (h : readWord? c = some (d, c')) :
    d.Plain := by
  obtain ⟨w, hw, h⟩ := List.exists_of_findSome?_eq_some h
  split at h
  · cases h
    simp only [words, List.mem_cons, List.not_mem_nil, or_false] at hw
    rcases hw with rfl | rfl | rfl | rfl | rfl | rfl <;> constructor
  · cases h

theorem plain_readNumber {c c' : Cursor} {d : Doc} (h : readNumber standard c = .ok (d, c')) :
    d.Plain := by
  obtain ⟨⟨numeral, next⟩, hnumeral, h⟩ := ok_of_bind h
  obtain ⟨value, hvalue, h⟩ := ok_of_bind h
  cases h
  rcases readNumeral_cases c.position c.rest with ⟨e, p, hfail⟩ | ⟨n, behind, hok, -, -, hdigits⟩
  · cases hnumeral.symm.trans hfail
  · cases hnumeral.symm.trans hok
    exact plain_nearestValue hdigits hvalue

section
variable {fuel : Nat}
  (hvalue : ∀ depth c d c', readValue standard fuel depth c = .ok (d, c') → d.Plain)
include hvalue

theorem plain_readItems {depth : Nat} {acc : List Doc} {c c' : Cursor} {d : Doc}
    (hitems : ∀ depth acc c d c', (∀ x ∈ acc, x.Plain) →
      readItems standard fuel depth acc c = .ok (d, c') → d.Plain)
    (hacc : ∀ x ∈ acc, x.Plain)
    (h : readItems standard (fuel + 1) depth acc c = .ok (d, c')) : d.Plain := by
  rw [readItems] at h
  obtain ⟨⟨item, after⟩, hitem, h⟩ := ok_of_bind h
  have hacc' : ∀ x ∈ item :: acc, x.Plain :=
    List.forall_mem_cons.2 ⟨hvalue _ _ _ _ hitem, hacc⟩
  dsimp only at h
  split at h
  · cases h
    exact .list fun x hx => hacc' x (List.mem_reverse.1 hx)
  · exact hitems _ _ _ _ _ hacc' h
  · cases h

theorem plain_readFields {depth : Nat} {acc : List (Text × Doc)} {c c' : Cursor} {d : Doc}
    (hfields : ∀ depth acc c d c', (acc.map Prod.fst).Nodup → (∀ f ∈ acc, f.2.Plain) →
      readFields standard fuel depth acc c = .ok (d, c') → d.Plain)
    (hkeys : (acc.map Prod.fst).Nodup) (hacc : ∀ f ∈ acc, f.2.Plain)
    (h : readFields standard (fuel + 1) depth acc c = .ok (d, c')) : d.Plain := by
  rw [readFields] at h
  split at h
  · obtain ⟨⟨key, after⟩, -, h⟩ := ok_of_bind h
    dsimp only at h
    split at h
    · obtain ⟨⟨value, behind⟩, hread, h⟩ := ok_of_bind h
      have hkeys' := Doc.nodup_put hkeys key value
      have hacc' := Doc.forall_mem_put (P := fun f => f.2.Plain) hacc key (hvalue _ _ _ _ hread)
      dsimp only at h
      split at h
      · cases h
        exact .record hkeys' hacc'
      · exact hfields _ _ _ _ _ hkeys' hacc' h
      · cases h
    · cases h
  · cases h

end

/-- The invariant: the items and fields that were read are plain. The induction is on the fuel,
which every call uses up. -/
theorem plain_readValue (fuel : Nat) :
    (∀ depth c d c', readValue standard fuel depth c = .ok (d, c') → d.Plain) ∧
    (∀ depth acc c d c', (∀ x ∈ acc, x.Plain) →
      readItems standard fuel depth acc c = .ok (d, c') → d.Plain) ∧
    ∀ depth acc c d c', (acc.map Prod.fst).Nodup → (∀ f ∈ acc, f.2.Plain) →
      readFields standard fuel depth acc c = .ok (d, c') → d.Plain := by
  induction fuel with
  | zero =>
    refine ⟨fun _ _ _ _ h => ?_, fun _ _ _ _ _ _ h => ?_, fun _ _ _ _ _ _ _ h => ?_⟩
    · rw [readValue] at h
      cases h
    · rw [readItems] at h
      cases h
    · rw [readFields] at h
      cases h
  | succ fuel ih =>
    obtain ⟨hvalue, hitems, hfields⟩ := ih
    refine ⟨fun depth c d c' h => ?_, fun _ _ _ _ _ hacc h => plain_readItems hvalue hitems hacc h,
      fun _ _ _ _ _ hkeys hacc h => plain_readFields hvalue hfields hkeys hacc h⟩
    rw [readValue.eq_def] at h
    dsimp only at h
    split at h
    · cases h
    · obtain ⟨r, -, h⟩ := ok_of_map h
      cases h
      exact .text _
    · split at h
      · cases h
      · split at h
        · cases h
          exact .record List.nodup_nil (by simp)
        · exact hfields _ _ _ _ _ (by simp) (by simp) h
    · split at h
      · cases h
      · split at h
        · cases h
          exact .list (by simp)
        · exact hitems _ _ _ _ _ (by simp) h
    · split at h
      next r hword =>
        cases h
        exact plain_readWord? hword
      next => exact plain_readNumber h

/-- A document that was read is plain. -/
theorem plain_of_read {s : Text} {d : Doc} (h : read s = .ok d) : d.Plain := by
  have h := ok_of_mapError h
  unfold readAll at h
  split at h
  · cases h
  · obtain ⟨⟨doc, after⟩, hread, h⟩ := ok_of_bind h
    dsimp only at h
    split at h
    · cases h
      exact (plain_readValue _).1 _ _ _ _ hread
    · cases h

theorem merged_of_read {s : Text} {d : Doc} (h : read s = .ok d) : d.merged = d :=
  (plain_of_read h).merged

end Json

end QueryBench
