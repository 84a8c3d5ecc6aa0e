import QueryBench.Proofs.Number.Bits

/-!
# The size of floating point numbers

Every finite floating point number is a multiple of the least positive one, and two of them are
equal exactly if they are the same multiple. Infinite ones are equal if they have one sign, and what
is not a number equals nothing. So a number is known by its size, and whole numbers have a size too.

Main definitions: `Binary.units`, `Size`, `size?`. Main statements: `compareInt_eq_iff`,
`beq_iff_size?`.
-/
set_option autoImplicit false

namespace QueryBench.Number
open Float.Model

/-! ## Finite numbers as multiples of the least one -/

/-- The least positive floating point number is `2 ^ (-leastExponent)`. -/
def leastExponent : Nat :=
  1074

/-- How often the least positive floating point number is contained in one. -/
def unitsOfOne : Nat :=
  2 ^ leastExponent

/-- A magnitude with a sign. -/
def withSign (negative : Bool) (magnitude : Nat) : Int :=
  if negative then -(magnitude : Int) else magnitude

/-- The number as a multiple of the least positive floating point number. -/
def Binary.units (b : Binary) : Int :=
  withSign b.negative (b.significand * 2 ^ (b.exponent + leastExponent).toNat)

theorem unitsOfOne_eq {i j : Nat} (h : i + j = leastExponent) : unitsOfOne = 2 ^ i * 2 ^ j := by
  rw [← Nat.pow_add, h, unitsOfOne]

theorem unitsOfOne_pos : 0 < unitsOfOne :=
  Nat.two_pow_pos leastExponent

-- The number is too large to be written out, and nothing but the above is needed of it.
attribute [irreducible] unitsOfOne

theorem compare_withSign_iff (n : Int) (negative : Bool) (num den : Nat) {c : Nat} (hc : 0 < c) :
    compare (n * den) (withSign negative num) = .eq ↔
      n * (den * c : Nat) = withSign negative (num * c) := by
  have hc : (c : Int) ≠ 0 := by omega
  rw [compare_eq_iff_eq]
  cases negative
  · simp only [withSign, Bool.false_eq_true, if_false, Int.natCast_mul, ← Int.mul_assoc]
    exact (Int.mul_eq_mul_right_iff hc).symm
  · simp only [withSign, if_true, Int.natCast_mul, ← Int.mul_assoc, ← Int.neg_mul]
    exact (Int.mul_eq_mul_right_iff hc).symm

theorem compareInt_eq_iff {b : Binary} (hb : b.Fits) (n : Int) :
    Binary.compareInt n b = .eq ↔ n * unitsOfOne = b.units := by
  obtain ⟨negative, m, e⟩ := b
  have hle : -(leastExponent : Int) ≤ e := hb.le_exponent
  unfold Binary.compareInt Binary.units Binary.ratio
  simp only [Nat.pow_eq]
  by_cases he : 0 ≤ e
  · have hpow : (e + leastExponent).toNat = e.toNat + leastExponent := by omega
    have hunits : m * 2 ^ (e + leastExponent).toNat = m * 2 ^ e.toNat * unitsOfOne := by
      rw [hpow, Nat.pow_add, Nat.mul_assoc, unitsOfOne_eq (Nat.add_zero _), Nat.pow_zero,
        Nat.mul_one]
    have hiff := compare_withSign_iff n negative (m * 2 ^ e.toNat) 1 unitsOfOne_pos
    rw [Nat.one_mul] at hiff
    rw [if_pos he, hunits]
    exact hiff
  · have hpow : (-e).toNat + (e + leastExponent).toNat = leastExponent := by omega
    rw [if_neg he, unitsOfOne_eq hpow]
    exact compare_withSign_iff n negative m _ (Nat.two_pow_pos _)

theorem shifted_lt {i j m n : Nat} (h : i < j) (hm : m < 2 ^ 53) (hn : 2 ^ 52 ≤ n) :
    m * 2 ^ i < n * 2 ^ j := by
  calc m * 2 ^ i < 2 ^ 53 * 2 ^ i := Nat.mul_lt_mul_of_pos_right hm (Nat.two_pow_pos i)
    _ = 2 ^ 52 * 2 ^ (i + 1) := by rw [Nat.pow_succ 2 i]; omega
    _ ≤ n * 2 ^ j := Nat.mul_le_mul hn (Nat.pow_le_pow_right (by omega) h)

theorem Binary.Fits.le_of_magnitude {a b : Binary} (ha : a.Fits) (hb : b.Fits)
    (h : a.significand * 2 ^ (a.exponent + leastExponent).toNat =
      b.significand * 2 ^ (b.exponent + leastExponent).toNat) : b.exponent ≤ a.exponent := by
  by_contra hlt
  have hle : -(leastExponent : Int) ≤ a.exponent := ha.le_exponent
  have hfilled : 2 ^ 52 ≤ b.significand := by
    have hleast : (leastExponent : Int) = 1074 := rfl
    rcases hb.filled with h | h <;> omega
  have hpow : (a.exponent + leastExponent).toNat < (b.exponent + leastExponent).toNat := by omega
  exact absurd h (Nat.ne_of_lt (shifted_lt hpow ha.significand_lt hfilled))

theorem withSign_inj {s t : Bool} {m n : Nat} :
    withSign s m = withSign t n ↔ m = 0 ∧ n = 0 ∨ s = t ∧ m = n := by
  unfold withSign
  cases s <;> cases t <;> simp <;> omega

/-- A finite number other than zero has one significand and exponent. -/
theorem units_inj {a b : Binary} (ha : a.Fits) (hb : b.Fits) :
    a.units = b.units ↔ a.significand = 0 ∧ b.significand = 0 ∨ a = b := by
  have hzero (s e : Nat) : s * 2 ^ e = 0 ↔ s = 0 := by simp
  rw [Binary.units, Binary.units, withSign_inj, hzero, hzero]
  refine or_congr_right ⟨?_, ?_⟩
  · rintro ⟨hnegative, hmagnitude⟩
    have hexponent : a.exponent = b.exponent :=
      Int.le_antisymm (hb.le_of_magnitude ha hmagnitude.symm) (ha.le_of_magnitude hb hmagnitude)
    rw [hexponent] at hmagnitude
    have hsignificand := Nat.eq_of_mul_eq_mul_right (Nat.two_pow_pos _) hmagnitude
    cases a
    cases b
    simp_all
  · rintro rfl
    exact ⟨rfl, rfl⟩

theorem units_ne_zero {b : Binary} (hb : 0 < b.significand) : b.units ≠ 0 := by
  have hmagnitude : 0 < b.significand * 2 ^ (b.exponent + leastExponent).toNat :=
    Nat.mul_pos hb (Nat.two_pow_pos _)
  unfold Binary.units withSign
  split <;> omega

/-! ## Equality of floating point numbers -/

/-- What a number is known by. -/
inductive Size where
  | finite (units : Int)
  | infinite (negative : Bool)
  deriving DecidableEq

/-- The size of a floating point number, unless it is not a number. -/
def size? (x : Float) : Option Size :=
  match Binary.ofFloat? x with
  | some b => some (.finite b.units)
  | none => if x.isNaN then none else some (.infinite (x < 0))

/-- The sign that a finite number is unpacked with. -/
def Binary.sign (b : Binary) : UnpackedFloat.Sign :=
  if b.negative then .negative else .positive

/-- How a floating point number is unpacked, and the size that it has. -/
inductive Unpacked : UnpackedFloat → Option Size → Prop where
  | notANumber : Unpacked .notANumber none
  | below : Unpacked (.infinity .negative) (some (.infinite true))
  | above : Unpacked (.infinity .positive) (some (.infinite false))
  | zero (s : UnpackedFloat.Sign) : Unpacked (.zero s) (some (.finite 0))
  | finite (b : Binary) (hb : b.Fits) (hpos : 0 < b.significand) :
    Unpacked (.finite b.sign b.significand b.exponent hpos) (some (.finite b.units))

theorem finite_congr {s t : UnpackedFloat.Sign} {m n : Nat} {e f : Int} {hm : 0 < m} (hs : s = t)
    (hmn : m = n) (he : e = f) : ∃ hn, UnpackedFloat.finite s m e hm = .finite t n f hn := by
  subst hs hmn he
  exact ⟨hm, rfl⟩

theorem unpackSign_eq (x : Float) : UnpackedFloat.Sign.ofBitVec
    (@UnpackedFloat.unpackSign Format.binary64 x.toModel.toBits.toBitVec) =
      if x.toBits.toNat / 2 ^ 63 = 1 then .negative else .positive := by
  have hbits : x.toBits.toNat < 2 ^ 64 := x.toBits.toNat_lt
  have hsign : (@UnpackedFloat.unpackSign Format.binary64 x.toModel.toBits.toBitVec).toNat =
      x.toBits.toNat / 2 ^ 63 := toNat_sign _
  unfold UnpackedFloat.Sign.ofBitVec
  by_cases hone : x.toBits.toNat / 2 ^ 63 = 1
  · rw [if_pos hone, if_neg]
    intro hzero
    rw [hzero, hone] at hsign
    cases hsign
  · rw [if_neg hone, if_pos]
    apply BitVec.eq_of_toNat_eq
    rw [hsign]
    show x.toBits.toNat / 2 ^ 63 = 0
    omega

theorem unpack_of_ofFloat? {x : Float} {b : Binary} (h : Binary.ofFloat? x = some b) :
    (b.significand = 0 ∧ ∃ s, x.toModel.unpack = .zero s) ∨
      ∃ hpos, x.toModel.unpack = .finite b.sign b.significand b.exponent hpos := by
  have hexponent := toNat_exponent x.toModel.toBits.toBitVec
  have hmantissa := toNat_mantissa x.toModel.toBits.toBitVec
  have hfull : x.toBits.toNat / 2 ^ 52 % 2 ^ 11 ≠ 2047 := by
    rw [Ne, ← ofFloat?_eq_none_iff, h]
    exact Option.some_ne_none b
  have hones : @UnpackedFloat.unpackExponent Format.binary64 x.toModel.toBits.toBitVec ≠ -1#11 :=
    fun heq => hfull (hexponent.symm.trans (congrArg BitVec.toNat heq))
  unfold Binary.ofFloat? at h
  simp only [Nat.pow_eq] at h
  rw [if_neg hfull] at h
  unfold Float.Model.unpack UnpackedFloat.unpack
  dsimp only
  rw [if_neg hones, unpackSign_eq]
  by_cases hsmall : x.toBits.toNat / 2 ^ 52 % 2 ^ 11 = 0
  · rw [if_pos hsmall] at h
    cases h
    have hleast : @UnpackedFloat.unpackExponent Format.binary64 x.toModel.toBits.toBitVec = 0#11 :=
      BitVec.eq_of_toNat_eq (hexponent.trans hsmall)
    rw [if_pos hleast]
    by_cases hempty : @UnpackedFloat.unpackMantissa Format.binary64 x.toModel.toBits.toBitVec = 0#52
    · rw [dif_pos hempty]
      left
      refine ⟨hmantissa.symm.trans (congrArg BitVec.toNat hempty), _, rfl⟩
    · rw [dif_neg hempty]
      right
      refine finite_congr (by simp [Binary.sign]) hmantissa ?_
      rw [hexponent]
      show ((x.toBits.toNat / 2 ^ 52 % 2 ^ 11 : Nat) : Int) - (1023 + 52) + 1 = -1074
      omega
  · rw [if_neg hsmall] at h
    cases h
    have hnormal : @UnpackedFloat.unpackExponent Format.binary64 x.toModel.toBits.toBitVec ≠ 0#11 :=
      fun heq => hsmall (hexponent.symm.trans (congrArg BitVec.toNat heq))
    rw [if_neg hnormal]
    right
    refine finite_congr (by simp [Binary.sign]) ?_ ?_
    · exact (toNat_leading _).trans (congrArg (2 ^ 52 + ·) hmantissa)
    · rw [hexponent]
      show ((x.toBits.toNat / 2 ^ 52 % 2 ^ 11 : Nat) : Int) - (1023 + 52) = _ - 1075
      omega

theorem unpacked (x : Float) : Unpacked x.toModel.unpack (size? x) := by
  cases hx : Binary.ofFloat? x with
  | some b =>
    rw [size?, hx]
    dsimp only
    rcases unpack_of_ofFloat? hx with ⟨hzero, s, hunpack⟩ | ⟨hpos, hunpack⟩
    · have hunits : b.units = 0 := by simp [Binary.units, hzero, withSign]
      rw [hunpack, hunits]
      exact .zero s
    · rw [hunpack]
      exact .finite b (fits_of_ofFloat? hx) hpos
  | none =>
    have hfinite : isFinite x = false := by rw [isFinite, hx]; rfl
    have hnan : x.isNaN = x.toModel.unpack.isNaN := rfl
    have hlt : decide (x < 0) = x.toModel.unpack.lt (0 : Float).toModel.unpack := by
      rw [Bool.eq_iff_iff, decide_eq_true_iff]
      exact decide_eq_true_iff
    rw [size?, hx, hnan, hlt]
    rcases unpack_of_not_isFinite hfinite with hu | ⟨s, hu⟩
    · rw [hu]
      exact .notANumber
    · rw [hu]
      cases s
      · exact .below
      · exact .above

theorem compare_finite_iff {a b : Binary} (ha : 0 < a.significand) (hb : 0 < b.significand) :
    UnpackedFloat.compare (.finite a.sign a.significand a.exponent ha)
      (.finite b.sign b.significand b.exponent hb) = some .eq ↔ a = b := by
  obtain ⟨s, m, e⟩ := a
  obtain ⟨t, n, f⟩ := b
  have hboth : (compare e f).then (compare m n) = .eq ↔ m = n ∧ e = f := by
    rw [Ordering.then_eq_eq, compare_eq_iff_eq, compare_eq_iff_eq, and_comm]
  cases s <;> cases t
  · show some ((compare e f).then (compare m n)) = some .eq ↔ _
    simp [hboth]
  · show some Ordering.gt = some .eq ↔ _
    simp
  · show some Ordering.lt = some .eq ↔ _
    simp
  · show some ((compare e f).then (compare m n)).swap = some .eq ↔ _
    simp [hboth]

theorem compare_eq_iff {u v : UnpackedFloat} {k l : Option Size} (hu : Unpacked u k)
    (hv : Unpacked v l) : u.compare v = some .eq ↔ ∃ size, k = some size ∧ l = some size := by
  have hnan : (none : Option Ordering) ≠ some .eq := by decide
  have hlt : some Ordering.lt ≠ some .eq := by decide
  have hgt : some Ordering.gt ≠ some .eq := by decide
  cases hu with
  | notANumber =>
    refine iff_of_false ?_ (by simp)
    cases hv <;> exact hnan
  | below =>
    cases hv with
    | notANumber => exact iff_of_false hnan (by simp)
    | below => exact iff_of_true rfl (by simp)
    | above => exact iff_of_false hlt (by simp)
    | zero t => exact iff_of_false hlt (by simp)
    | finite b hb hpos => exact iff_of_false hlt (by simp)
  | above =>
    cases hv with
    | notANumber => exact iff_of_false hnan (by simp)
    | below => exact iff_of_false hgt (by simp)
    | above => exact iff_of_true rfl (by simp)
    | zero t => exact iff_of_false hgt (by simp)
    | finite b hb hpos => exact iff_of_false hgt (by simp)
  | zero s =>
    cases hv with
    | notANumber => exact iff_of_false hnan (by simp)
    | below => exact iff_of_false hgt (by simp)
    | above => exact iff_of_false hlt (by simp)
    | zero t => exact iff_of_true rfl (by simp)
    | finite b hb hpos =>
      refine iff_of_false ?_ (by simpa using units_ne_zero hpos)
      cases hsign : b.sign
      · exact hgt
      · exact hlt
  | finite a ha hpos =>
    cases hv with
    | notANumber => exact iff_of_false hnan (by simp)
    | below => exact iff_of_false hgt (by simp)
    | above => exact iff_of_false hlt (by simp)
    | zero t =>
      refine iff_of_false ?_ (by simpa using (units_ne_zero hpos).symm)
      cases hsign : a.sign
      · exact hlt
      · exact hgt
    | finite b hb hpos' =>
      have hunits : a.units = b.units ↔ a = b := by
        rw [units_inj ha hb]
        exact or_iff_right fun h => Nat.ne_of_gt hpos h.1
      rw [compare_finite_iff, ← hunits]
      simp [eq_comm]

/-- Two floating point numbers are equal if they have one size. -/
theorem beq_iff_size? (x y : Float) :
    (x == y) = true ↔ ∃ size, size? x = some size ∧ size? y = some size := by
  have hbeq : (x == y) = (x.toModel.unpack.compare y.toModel.unpack == some .eq) := rfl
  rw [hbeq, beq_iff_eq]
  exact compare_eq_iff (unpacked x) (unpacked y)

theorem not_lt_of_beq {x y : Float} (h : (x == y) = true) : ¬ x < y := by
  have hbeq : (x.toModel.unpack.compare y.toModel.unpack == some .eq) = true := h
  intro hlt
  have hlt : (x.toModel.unpack.compare y.toModel.unpack == some .lt) = true := of_decide_eq_true hlt
  rw [beq_iff_eq.1 hbeq] at hlt
  cases hlt

end QueryBench.Number
