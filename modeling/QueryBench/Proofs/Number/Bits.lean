import Mathlib.Tactic.NormNum
import QueryBench.Number.Binary

/-!
# The bits of floating point numbers

A floating point number is known by its bits, of which those of the number that is not one are
fixed. So a number made from the bits of another one is that number, and the fields of the bits
tell all numbers apart.

Main definitions: `Binary.Fits`, `Binary.magnitudeBits`. Main statements: `ofBits_toBits`,
`toBits_of_ofFloat?` on finite numbers, and `eq_of_not_isFinite` on the others.
-/
set_option autoImplicit false

namespace QueryBench.Number
open Float.Model

/-! ## Fields of bits -/

theorem toNat_mantissa (b : BitVec 64) :
    (@UnpackedFloat.unpackMantissa Format.binary64 b).toNat = b.toNat % 2 ^ 52 := by
  simp only [UnpackedFloat.unpackMantissa, BitVec.toNat_cast, BitVec.extractLsb_toNat]
  simp

theorem toNat_exponent (b : BitVec 64) :
    (@UnpackedFloat.unpackExponent Format.binary64 b).toNat = b.toNat / 2 ^ 52 % 2 ^ 11 := by
  simp only [UnpackedFloat.unpackExponent, BitVec.toNat_cast, BitVec.extractLsb_toNat,
    Nat.shiftRight_eq_div_pow]

theorem toNat_sign (b : BitVec 64) :
    (@UnpackedFloat.unpackSign Format.binary64 b).toNat = b.toNat / 2 ^ 63 := by
  have hb := b.isLt
  unfold UnpackedFloat.unpackSign
  simp only [BitVec.toNat_cast, BitVec.extractLsb_toNat, Nat.shiftRight_eq_div_pow]
  omega

theorem toNat_components (s : UnpackedFloat.Sign) (e : BitVec 11) (m : BitVec 52) :
    (UnpackedFloat.packComponents Format.binary64 s e m).toNat =
      s.toBitVec.toNat * 2 ^ 63 + e.toNat * 2 ^ 52 + m.toNat := by
  simp only [UnpackedFloat.packComponents, BitVec.toNat_append]
  rw [← Nat.shiftLeft_add_eq_or_of_lt e.isLt, ← Nat.shiftLeft_add_eq_or_of_lt m.isLt,
    Nat.shiftLeft_eq, Nat.shiftLeft_eq]
  omega

theorem components_eq {b : BitVec 64} {e : BitVec 11} {m : BitVec 52}
    (he : e.toNat = b.toNat / 2 ^ 52 % 2 ^ 11) (hm : m.toNat = b.toNat % 2 ^ 52) :
    UnpackedFloat.packComponents Format.binary64
      (.ofBitVec (@UnpackedFloat.unpackSign Format.binary64 b)) e m = b := by
  have hsign : ∀ s : BitVec 1, (UnpackedFloat.Sign.ofBitVec s).toBitVec = s := by decide
  have hb := b.isLt
  apply BitVec.eq_of_toNat_eq
  rw [toNat_components, hsign, toNat_sign, he, hm]
  omega

/-! ## A number and its bits -/

theorem toNat_leading (m : BitVec 52) : (1#1 ++ m).toNat = 2 ^ 52 + m.toNat := by
  rw [BitVec.toNat_append, ← Nat.shiftLeft_add_eq_or_of_lt m.isLt, Nat.shiftLeft_eq]
  simp

theorem log2_leading (m : BitVec 52) : (1#1 ++ m).toNat.log2 = 52 := by
  have hm := m.isLt
  rw [toNat_leading, Nat.log2_eq_iff (by omega)]
  omega

/-- The bits of a finite number whose exponent has a field of its own. -/
theorem pack_finite {b : BitVec 64} {m : Nat} {e : Int} (hm : 0 < m)
    (hlast : b.toNat / 2 ^ 52 % 2 ^ 11 ≠ 2047) (hfraction : m % 2 ^ 52 = b.toNat % 2 ^ 52)
    (hfield : m.log2 = 52 ∧ e + 1075 = (b.toNat / 2 ^ 52 % 2 ^ 11 : Nat) ∨
      m.log2 < 52 ∧ e = -1074 ∧ b.toNat / 2 ^ 52 % 2 ^ 11 = 0) :
    UnpackedFloat.pack Format.binary64
      (.finite (.ofBitVec (@UnpackedFloat.unpackSign Format.binary64 b)) m e hm) = b := by
  have hbound : b.toNat / 2 ^ 52 % 2 ^ 11 < 2 ^ 11 := Nat.mod_lt _ (by norm_num)
  have hbias : e + Format.binary64.exponentBias + Format.binary64.mantissaBitsWithoutImplicit =
      e + 1075 := by
    show e + 1023 + 52 = e + 1075
    omega
  have hbits : Format.binary64.mantissaBits = 53 := rfl
  have hsize : ¬ 2 ^ Format.binary64.exponentBits ≤ (e + 1075).toNat + 1 := by
    show ¬ 2 ^ 11 ≤ (e + 1075).toNat + 1
    omega
  unfold UnpackedFloat.pack
  dsimp only
  rw [hbias, if_neg hsize, hbits]
  rcases hfield with ⟨hlog, he⟩ | ⟨hlog, -, he⟩
  · rw [if_pos (by omega)]
    refine components_eq ?_ ?_
    · rw [BitVec.toNat_ofNat, he, Int.toNat_natCast]
      exact Nat.mod_eq_of_lt hbound
    · rw [BitVec.toNat_ofNat]
      exact hfraction
  · rw [if_neg (by omega)]
    refine components_eq he.symm ?_
    rw [BitVec.toNat_ofNat]
    exact hfraction

theorem pack_unpack {b : BitVec 64} (hb : Format.binary64.Valid b) :
    UnpackedFloat.pack Format.binary64 (UnpackedFloat.unpack Format.binary64 b) = b := by
  have hexponent := toNat_exponent b
  have hmantissa := toNat_mantissa b
  have hfraction : b.toNat % 2 ^ 52 < 2 ^ 52 := Nat.mod_lt _ (by norm_num)
  unfold UnpackedFloat.unpack
  dsimp only
  by_cases hones : @UnpackedFloat.unpackExponent Format.binary64 b = -1#11
  · rw [if_pos hones]
    by_cases hzero : @UnpackedFloat.unpackMantissa Format.binary64 b = 0#52
    · -- infinite
      rw [if_pos hzero]
      refine components_eq ?_ ?_
      · rw [← hexponent, hones]
      · rw [← hmantissa, hzero]
        rfl
    · rw [if_neg hzero]
      exact (hb.eq_packedNaN hones hzero).symm
  · rw [if_neg hones]
    have hlast : b.toNat / 2 ^ 52 % 2 ^ 11 ≠ 2047 := fun h =>
      hones (BitVec.eq_of_toNat_eq (hexponent.trans h))
    by_cases hsmall : @UnpackedFloat.unpackExponent Format.binary64 b = 0#11
    · rw [if_pos hsmall]
      have hzero : b.toNat / 2 ^ 52 % 2 ^ 11 = 0 := by
        rw [← hexponent, hsmall]
        rfl
      by_cases hempty : @UnpackedFloat.unpackMantissa Format.binary64 b = 0#52
      · rw [dif_pos hempty]
        refine components_eq hzero.symm ?_
        rw [← hmantissa, hempty]
        rfl
      · -- too small for a leading bit
        rw [dif_neg hempty]
        refine pack_finite _ hlast ?_ (.inr ⟨?_, ?_, hzero⟩)
        · rw [hmantissa, Nat.mod_mod]
        · have hne : (@UnpackedFloat.unpackMantissa Format.binary64 b).toNat ≠ 0 := fun h =>
            hempty (BitVec.eq_of_toNat_eq h)
          rw [Nat.log2_lt hne, hmantissa]
          exact hfraction
        · rw [hexponent, hzero]
          rfl
    · rw [if_neg hsmall]
      refine pack_finite _ hlast ?_ (.inl ⟨log2_leading _, ?_⟩)
      · rw [toNat_leading, hmantissa]
        omega
      · rw [hexponent]
        show _ - (1023 + 52 : Int) + 1075 = _
        omega

theorem ofBits_toBits (x : Float) : Float.ofBits x.toBits = x := by
  obtain ⟨⟨bits, valid⟩⟩ := x
  have hext {m n : Float.Model} (h : m.toBits = n.toBits) : m = n := by
    obtain ⟨mBits, hm⟩ := m
    obtain ⟨nBits, hn⟩ := n
    obtain rfl : mBits = nBits := h
    rfl
  exact congrArg Float.ofModel (hext (congrArg UInt64.ofBitVec (pack_unpack valid)))

theorem eq_of_toBits {x y : Float} (h : x.toBits = y.toBits) : x = y := by
  rw [← ofBits_toBits x, h, ofBits_toBits]

/-! ## Finite numbers -/

/-- A significand and an exponent that a finite number has: the significand fills its 53 bits unless
the exponent is the least one. -/
structure Binary.Fits (b : Binary) : Prop where
  significand_lt : b.significand < 2 ^ 53
  le_exponent : -1074 ≤ b.exponent
  exponent_le : b.exponent ≤ 971
  filled : 2 ^ 52 ≤ b.significand ∨ b.exponent = -1074

/-- The fields of a finite number put together, without the sign: the leading bit of the significand
counts to the exponent. -/
def Binary.magnitudeBits (b : Binary) : Nat :=
  (b.exponent + 1074).toNat * 2 ^ 52 + b.significand

theorem ofFloat?_eq_none_iff (x : Float) :
    Binary.ofFloat? x = none ↔ x.toBits.toNat / 2 ^ 52 % 2 ^ 11 = 2047 := by
  unfold Binary.ofFloat?
  simp only [Nat.pow_eq]
  split
  · simpa
  · split <;> simpa

theorem fits_of_ofFloat? {x : Float} {b : Binary} (h : Binary.ofFloat? x = some b) : b.Fits := by
  have hfraction : x.toBits.toNat % 2 ^ 52 < 2 ^ 52 := Nat.mod_lt _ (by norm_num)
  have hfield : x.toBits.toNat / 2 ^ 52 % 2 ^ 11 < 2 ^ 11 := Nat.mod_lt _ (by norm_num)
  unfold Binary.ofFloat? at h
  simp only [Nat.pow_eq] at h
  split at h
  · cases h
  · split at h
    · cases h
      exact ⟨by dsimp only; omega, by norm_num, by norm_num, .inr rfl⟩
    · cases h
      exact ⟨by dsimp only; omega, by dsimp only; omega, by dsimp only; omega,
        .inl (by dsimp only; omega)⟩

theorem toBits_of_ofFloat? {x : Float} {b : Binary} (h : Binary.ofFloat? x = some b) :
    x.toBits.toNat = (if b.negative then 2 ^ 63 else 0) + b.magnitudeBits := by
  have hbits : x.toBits.toNat < 2 ^ 64 := x.toBits.toNat_lt
  unfold Binary.ofFloat? at h
  simp only [Nat.pow_eq] at h
  unfold Binary.magnitudeBits
  split at h
  · cases h
  · split at h
    · cases h
      simp only [decide_eq_true_eq]
      split <;> omega
    · cases h
      simp only [decide_eq_true_eq]
      split <;> omega

/-! ## Numbers that are not finite -/

/-- The exponent field of a number that is not finite is full. -/
theorem unpack_of_not_isFinite {x : Float} (h : isFinite x = false) :
    x.toModel.unpack = .notANumber ∨ ∃ s, x.toModel.unpack = .infinity s := by
  have hfull : x.toBits.toNat / 2 ^ 52 % 2 ^ 11 = 2047 := by
    rw [← ofFloat?_eq_none_iff]
    exact Option.not_isSome_iff_eq_none.1 (Bool.eq_false_iff.1 h)
  have hones : @UnpackedFloat.unpackExponent Format.binary64 x.toModel.toBits.toBitVec = -1#_ :=
    BitVec.eq_of_toNat_eq ((toNat_exponent _).trans hfull)
  unfold Float.Model.unpack UnpackedFloat.unpack
  dsimp only
  rw [if_pos hones]
  split
  · exact .inr ⟨_, rfl⟩
  · exact .inl rfl

theorem toBits_of_unpack {x : Float} {u : UnpackedFloat} (h : x.toModel.unpack = u) :
    x.toBits = .ofBitVec (UnpackedFloat.pack Format.binary64 u) := by
  have hx := pack_unpack x.toModel.valid
  rw [← h, ← UInt64.toBitVec_inj]
  exact hx.symm

/-- A number that is not finite is not a number or one of the two infinite ones, and the sign tells
these apart. -/
theorem eq_of_not_isFinite {x : Float} (h : isFinite x = false) :
    if x.isNaN then x = 0.0 / 0.0 else if x < 0 then x = -1.0 / 0.0 else x = 1.0 / 0.0 := by
  have hnan : x.isNaN = x.toModel.unpack.isNaN := rfl
  have hlt : x < 0 ↔ x.toModel.unpack.lt (0 : Float).toModel.unpack = true := decide_eq_true_iff
  have hzero : (0 : Float).toModel.unpack = .zero .positive := by rfl
  rw [hnan]
  rcases unpack_of_not_isFinite h with hx | ⟨s, hx⟩
  · rw [hx]
    exact eq_of_toBits ((toBits_of_unpack hx).trans (by decide))
  · rw [hx]
    simp only [hlt, hx, hzero]
    cases s
    · exact eq_of_toBits ((toBits_of_unpack hx).trans (by decide))
    · exact eq_of_toBits ((toBits_of_unpack hx).trans (by decide))

theorem not_isNaN_of_isFinite {x : Float} (h : isFinite x = true) : x.isNaN = false := by
  by_contra hnan
  have hnan : x.toModel.unpack.isNaN = true := Bool.of_not_eq_false hnan
  have hx : x.toModel.unpack = .notANumber := by
    cases hu : x.toModel.unpack <;> rw [hu] at hnan <;> first | rfl | cases hnan
  have hnone : Binary.ofFloat? x = none := by
    rw [ofFloat?_eq_none_iff, toBits_of_unpack hx]
    decide
  rw [isFinite, hnone] at h
  cases h

end QueryBench.Number
