import Mathlib.Data.List.Forall2
import Mathlib.Data.List.Perm.Subperm
import QueryBench.Proofs.Doc.Shape
import QueryBench.Proofs.Number.Size

/-!
# Documents that stand for the same value

What can be a key is null, a text or a number, and a number is known by its size, whether it is a
truth value, whole or a fraction. Two keys are the same exactly if they are known by the same. So
being the same is symmetric and transitive among keys, and reflexive but for what is not a number.
Lists and records are compared part by part, so two documents that are the same as a third one are
the same as each other, as long as no key of a record is repeated.

Main definitions: `Doc.Key`, `Doc.key?`, `Doc.UniqueKeys`. Main statements: `Doc.same_iff_key?`,
`Doc.same_symm`, `Doc.same_of_same`.
-/
set_option autoImplicit false

namespace QueryBench.Doc
open Number

/-- The size of a number. -/
def number? : Doc → Option Size
  | real x => size? x
  | d => d.asInt?.map fun n => .finite (n * unitsOfOne)

/-- What a document is known by as a key. -/
inductive Key where
  | null
  | text (value : Text)
  | number (size : Size)
  deriving DecidableEq

/-- The key that a document is; only what is not a number has none, and lists and records. -/
def key? : Doc → Option Key
  | null => some .null
  | text s => some (.text s)
  | d => d.number?.map .number

theorem units_eq_iff {m n : Int} : m * unitsOfOne = n * unitsOfOne ↔ m = n := by
  have hpos := unitsOfOne_pos
  exact Int.mul_eq_mul_right_iff (by omega)

theorem compareMixed_eq_iff (n : Int) (x : Float) :
    compareNumbers?.compareMixed n x = some .eq ↔ size? x = some (.finite (n * unitsOfOne)) := by
  unfold compareNumbers?.compareMixed size?
  cases hx : Binary.ofFloat? x with
  | some b =>
    dsimp only
    rw [Option.some_inj, Option.some_inj, compareInt_eq_iff (fits_of_ofFloat? hx),
      Size.finite.injEq, eq_comm]
  | none =>
    dsimp only
    by_cases hnan : x.isNaN = true
    · rw [if_pos hnan, if_pos hnan]
      simp
    · rw [if_neg hnan, if_neg hnan]
      by_cases hneg : x < 0 <;> simp [hneg]

theorem compareReals_eq_iff (x y : Float) :
    (if x < y then some .lt else if x == y then some .eq else if y < x then some .gt else none) =
      some Ordering.eq ↔ ∃ size, size? x = some size ∧ size? y = some size := by
  rw [← beq_iff_size?]
  by_cases hbeq : (x == y) = true
  · simp [hbeq, not_lt_of_beq hbeq]
  · by_cases hlt : x < y
    · simp [hbeq, hlt]
    · by_cases hgt : y < x <;> simp [hbeq, hlt, hgt]

theorem number?_cases (d : Doc) :
    (∃ n, d.asInt? = some n ∧ d.number? = some (.finite (n * unitsOfOne))) ∨ (∃ x, d = .real x) ∨
      d.number? = none ∧ ∀ e, compareNumbers? d e = none ∧ compareNumbers? e d = none := by
  cases d with
  | bool b => exact .inl ⟨_, rfl, rfl⟩
  | int n => exact .inl ⟨n, rfl, rfl⟩
  | real x => exact .inr (.inl ⟨x, rfl⟩)
  | null => exact .inr (.inr ⟨rfl, fun e => by cases e <;> exact ⟨rfl, rfl⟩⟩)
  | text s => exact .inr (.inr ⟨rfl, fun e => by cases e <;> exact ⟨rfl, rfl⟩⟩)
  | list items => exact .inr (.inr ⟨rfl, fun e => by cases e <;> exact ⟨rfl, rfl⟩⟩)
  | record fields => exact .inr (.inr ⟨rfl, fun e => by cases e <;> exact ⟨rfl, rfl⟩⟩)

theorem compareNumbers?_eq_iff (a b : Doc) : compareNumbers? a b = some (some .eq) ↔
    ∃ size, a.number? = some size ∧ b.number? = some size := by
  rcases number?_cases a with ⟨m, ha, hsize⟩ | ⟨x, rfl⟩ | ⟨hsize, hnone⟩
  · rcases number?_cases b with ⟨n, hb, hsize'⟩ | ⟨y, rfl⟩ | ⟨hsize', hnone⟩
    · have hcompare : compareNumbers? a b = some (some (compare m n)) := by
        unfold compareNumbers?
        dsimp only
        rw [ha, hb]
      rw [hcompare, hsize, hsize', Option.some_inj, Option.some_inj, compare_eq_iff_eq,
        ← units_eq_iff]
      simp [eq_comm]
    · have hcompare : compareNumbers? a (.real y) = some (compareNumbers?.compareMixed m y) := by
        unfold compareNumbers?
        dsimp only
        rw [ha]
        rfl
      rw [hcompare, hsize, Option.some_inj, compareMixed_eq_iff]
      simp [number?]
    · simp [hnone a, hsize']
  · rcases number?_cases b with ⟨n, hb, hsize'⟩ | ⟨y, rfl⟩ | ⟨hsize', hnone⟩
    · have hcompare : compareNumbers? (.real x) b =
          some ((compareNumbers?.compareMixed n x).map Ordering.swap) := by
        unfold compareNumbers?
        dsimp only
        rw [hb]
        rfl
      have hswap : (compareNumbers?.compareMixed n x).map Ordering.swap = some .eq ↔
          compareNumbers?.compareMixed n x = some .eq := by
        cases compareNumbers?.compareMixed n x <;> simp
      rw [hcompare, hsize', Option.some_inj, hswap, compareMixed_eq_iff]
      simp [number?]
    · have hcompare : compareNumbers? (.real x) (.real y) =
          some (if x < y then some .lt else if x == y then some .eq
            else if y < x then some .gt else none) := rfl
      rw [hcompare, Option.some_inj]
      exact compareReals_eq_iff x y
    · simp [hnone (.real x), hsize']
  · simp [hnone b, hsize]

theorem key?_eq_number_iff {d : Doc} {size : Size} :
    d.key? = some (.number size) ↔ d.number? = some size := by
  cases d <;> simp [key?, number?, asInt?]

/-- A document that can be a key is the same as those that have its key. -/
theorem same_iff_key? {a : Doc} (ha : a.checkKey = .ok ()) (b : Doc) :
    a.same b = true ↔ ∃ k, a.key? = some k ∧ b.key? = some k := by
  have hnumber (hsame : a.same b = (compareNumbers? a b == some (some .eq)))
      (hkey : a.key? = a.number?.map .number) :
      a.same b = true ↔ ∃ k, a.key? = some k ∧ b.key? = some k := by
    rw [hsame, beq_iff_eq, compareNumbers?_eq_iff, hkey]
    constructor
    · rintro ⟨size, hsize, hsize'⟩
      exact ⟨.number size, by rw [hsize]; rfl, key?_eq_number_iff.2 hsize'⟩
    · rintro ⟨k, hk, hk'⟩
      obtain ⟨size, hsize, rfl⟩ := Option.map_eq_some_iff.1 hk
      exact ⟨size, hsize, key?_eq_number_iff.1 hk'⟩
  cases a with
  | null => cases b <;> simp [same, sameAtom, key?, number?, compareNumbers?, asInt?]
  | text s =>
    cases b with
    | text t =>
      show (s == t) = true ↔ _
      rw [beq_iff_eq]
      constructor
      · rintro rfl
        exact ⟨.text s, rfl, rfl⟩
      · rintro ⟨k, hk, hk'⟩
        cases hk
        cases hk'
        rfl
    | _ => simp [same, sameAtom, key?, number?, compareNumbers?, asInt?]
  | bool p => exact hnumber (by cases b <;> rfl) rfl
  | int n => exact hnumber (by cases b <;> rfl) rfl
  | real x => exact hnumber (by cases b <;> rfl) rfl
  | list items => cases ha
  | record fields => cases ha

/-! ## Lists and records -/

/-- No record in the document has a key twice. -/
inductive UniqueKeys : Doc → Prop where
  | null : UniqueKeys .null
  | bool (b : Bool) : UniqueKeys (.bool b)
  | int (n : Int) : UniqueKeys (.int n)
  | real (x : Float) : UniqueKeys (.real x)
  | text (s : Text) : UniqueKeys (.text s)
  | list {items : List Doc} (h : ∀ d ∈ items, UniqueKeys d) : UniqueKeys (.list items)
  | record {fields : List (Text × Doc)} (hkeys : (fields.map Prod.fst).Nodup)
      (h : ∀ f ∈ fields, UniqueKeys f.2) : UniqueKeys (.record fields)

theorem sameItems_iff {xs ys : List Doc} :
    sameItems xs ys = true ↔ List.Forall₂ (fun x y => x.same y = true) xs ys := by
  induction xs generalizing ys with
  | nil => cases ys <;> simp [sameItems]
  | cons x xs ih => cases ys <;> simp [sameItems, ih]

theorem sameFields_iff {fs gs : List (Text × Doc)} :
    sameFields fs gs = true ↔
      ∀ f ∈ fs, ∃ w, find? gs f.1 = some w ∧ f.2.same w = true := by
  induction fs with
  | nil => simp [sameFields]
  | cons f fs ih =>
    obtain ⟨k, v⟩ := f
    rw [sameFields, List.forall_mem_cons, ← ih]
    cases find? gs k with
    | none => simp
    | some w => simp

theorem find?_of_mem {fields : List (Text × Doc)} (hkeys : (fields.map Prod.fst).Nodup)
    {f : Text × Doc} (hf : f ∈ fields) : find? fields f.1 = some f.2 := by
  induction fields with
  | nil => cases hf
  | cons g rest ih =>
    obtain ⟨k, v⟩ := g
    obtain ⟨hk, hrest⟩ := List.nodup_cons.1 hkeys
    rw [find?_cons]
    rcases List.mem_cons.1 hf with rfl | hf
    · rw [if_pos rfl]
    · have hne : f.1 ≠ k := fun h => hk (List.mem_map.2 ⟨f, hf, h⟩)
      rw [if_neg hne, ih hrest hf]

/-- Fields that all have partners among equally many others have the same keys as these. -/
theorem keys_perm {fs gs : List (Text × Doc)} (hkeys : (fs.map Prod.fst).Nodup)
    (hlength : fs.length = gs.length) (h : sameFields fs gs = true) :
    (fs.map Prod.fst).Perm (gs.map Prod.fst) := by
  have hsub : fs.map Prod.fst ⊆ gs.map Prod.fst := by
    intro k hk
    obtain ⟨f, hf, rfl⟩ := List.mem_map.1 hk
    obtain ⟨w, hw, -⟩ := sameFields_iff.1 h f hf
    exact List.mem_map.2 ⟨(f.1, w), mem_of_find? hw, rfl⟩
  exact (List.subperm_of_subset hkeys hsub).perm_of_length_le (by simp [hlength])

theorem checkKey_of_key? {d : Doc} {k : Key} (h : d.key? = some k) : d.checkKey = .ok () := by
  cases d with
  | list items => cases h
  | record fields => cases h
  | _ => rfl

theorem same_of_same_key {a b c : Doc} (ha : a.checkKey = .ok ()) (hab : a.same b = true)
    (hac : a.same c = true) : b.same c = true := by
  obtain ⟨k, hk, hb⟩ := (same_iff_key? ha b).1 hab
  obtain ⟨k', hk', hc⟩ := (same_iff_key? ha c).1 hac
  obtain rfl : k = k' := Option.some.inj (hk.symm.trans hk')
  exact (same_iff_key? (checkKey_of_key? hb) c).2 ⟨k, hb, hc⟩

theorem sameItems_of_same {xs ys zs : List Doc}
    (h : ∀ x ∈ xs, ∀ y z : Doc, x.same y = true → x.same z = true → y.same z = true)
    (hy : sameItems xs ys = true) (hz : sameItems xs zs = true) : sameItems ys zs = true := by
  rw [sameItems_iff] at hy hz ⊢
  induction hy generalizing zs with
  | nil =>
    cases hz
    exact .nil
  | @cons x y xs ys hxy _ ih =>
    obtain _ | @⟨_, z, _, zs, hxz, hz⟩ := hz
    obtain ⟨hx, hxs⟩ := List.forall_mem_cons.1 h
    exact .cons (hx y z hxy hxz) (ih hxs hz)

theorem sameFields_of_same {fs gs hs : List (Text × Doc)} (hkeys : (fs.map Prod.fst).Nodup)
    (h : ∀ f ∈ fs, ∀ v w : Doc, f.2.same v = true → f.2.same w = true → v.same w = true)
    (hlength : fs.length = gs.length) (hgs : sameFields fs gs = true)
    (hhs : sameFields fs hs = true) : sameFields gs hs = true := by
  have hperm := keys_perm hkeys hlength hgs
  rw [sameFields_iff] at hgs hhs ⊢
  intro g hg
  obtain ⟨f, hf, hfg⟩ := List.mem_map.1 (hperm.mem_iff.2 (List.mem_map_of_mem hg))
  obtain ⟨v, hv, hfv⟩ := hgs f hf
  obtain ⟨w, hw, hfw⟩ := hhs f hf
  rw [hfg] at hv hw
  obtain rfl : g.2 = v := Option.some.inj ((find?_of_mem (hperm.nodup_iff.1 hkeys) hg).symm.trans hv)
  exact ⟨w, hw, h f hf _ w hfv hfw⟩

theorem list_of_same {xs : List Doc} {b : Doc} (h : (list xs).same b = true) :
    ∃ ys, b = list ys ∧ sameItems xs ys = true := by
  cases b with
  | list ys => exact ⟨ys, rfl, h⟩
  | _ => cases h

theorem record_of_same {fs : List (Text × Doc)} {b : Doc} (h : (record fs).same b = true) :
    ∃ gs, b = record gs ∧ fs.length = gs.length ∧ sameFields fs gs = true := by
  cases b with
  | record gs =>
    simp only [same, Bool.and_eq_true, beq_iff_eq] at h
    exact ⟨gs, rfl, h⟩
  | _ => cases h

theorem same_symm_key {a b : Doc} (ha : a.checkKey = .ok ()) (h : a.same b = true) :
    b.same a = true := by
  obtain ⟨k, hk, hb⟩ := (same_iff_key? ha b).1 h
  exact (same_iff_key? (checkKey_of_key? hb) a).2 ⟨k, hb, hk⟩

theorem sameItems_symm {xs ys : List Doc}
    (h : ∀ x ∈ xs, ∀ y : Doc, x.same y = true → y.same x = true) (hy : sameItems xs ys = true) :
    sameItems ys xs = true := by
  rw [sameItems_iff] at hy ⊢
  induction hy with
  | nil => exact .nil
  | @cons x y _ _ hxy _ ih =>
    obtain ⟨hx, hxs⟩ := List.forall_mem_cons.1 h
    exact .cons (hx y hxy) (ih hxs)

theorem sameFields_symm {fs gs : List (Text × Doc)} (hkeys : (fs.map Prod.fst).Nodup)
    (h : ∀ f ∈ fs, ∀ v : Doc, f.2.same v = true → v.same f.2 = true)
    (hlength : fs.length = gs.length) (hgs : sameFields fs gs = true) : sameFields gs fs = true := by
  have hperm := keys_perm hkeys hlength hgs
  rw [sameFields_iff] at hgs ⊢
  intro g hg
  obtain ⟨f, hf, hfg⟩ := List.mem_map.1 (hperm.mem_iff.2 (List.mem_map_of_mem hg))
  obtain ⟨v, hv, hfv⟩ := hgs f hf
  rw [hfg] at hv
  obtain rfl : g.2 = v := Option.some.inj ((find?_of_mem (hperm.nodup_iff.1 hkeys) hg).symm.trans hv)
  exact ⟨f.2, hfg ▸ find?_of_mem hkeys hf, h f hf _ hfv⟩

/-- A document is the same as those that are the same as it. -/
theorem same_symm {a b : Doc} (ha : a.UniqueKeys) (h : a.same b = true) : b.same a = true := by
  induction ha generalizing b with
  | null | bool | int | real | text => exact same_symm_key rfl h
  | list _ ih =>
    obtain ⟨ys, rfl, hys⟩ := list_of_same h
    exact sameItems_symm (fun x hx y => ih x hx) hys
  | record hkeys _ ih =>
    obtain ⟨gs, rfl, hlength, hgs⟩ := record_of_same h
    simp only [same, Bool.and_eq_true, beq_iff_eq]
    exact ⟨hlength.symm, sameFields_symm hkeys (fun f hf v => ih f hf) hlength hgs⟩

/-- Documents that are the same as a third one are the same as each other. -/
theorem same_of_same {a b c : Doc} (ha : a.UniqueKeys) (hab : a.same b = true)
    (hac : a.same c = true) : b.same c = true := by
  induction ha generalizing b c with
  | null | bool | int | real | text => exact same_of_same_key rfl hab hac
  | list _ ih =>
    obtain ⟨ys, rfl, hys⟩ := list_of_same hab
    obtain ⟨zs, rfl, hzs⟩ := list_of_same hac
    exact sameItems_of_same (fun x hx y z => ih x hx) hys hzs
  | record hkeys _ ih =>
    obtain ⟨gs, rfl, hlength, hgs⟩ := record_of_same hab
    obtain ⟨hs, rfl, hlength', hhs⟩ := record_of_same hac
    simp only [same, Bool.and_eq_true, beq_iff_eq]
    exact ⟨hlength.symm.trans hlength',
      sameFields_of_same hkeys (fun f hf v w => ih f hf) hlength hgs hhs⟩

end QueryBench.Doc
