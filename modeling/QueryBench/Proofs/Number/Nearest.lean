import Mathlib.Algebra.Order.Field.Rat
import Mathlib.Algebra.Order.Field.Power
import Mathlib.Tactic.FieldSimp
import Mathlib.Tactic.Linarith
import Mathlib.Tactic.Positivity
import Mathlib.Tactic.Ring
import QueryBench.Proofs.Number.Bits

/-!
# Rounding to the nearest floating point number

Every quotient in the rounding range of a finite number is rounded to that number. The range reaches
half a unit of the last place to either side, but below a power of two only a quarter, and its ends
belong to it when the significand is even.

Main definition: `Binary.Attracts`. Main statement: `nearest_of_attracts`.
-/
set_option autoImplicit false

namespace QueryBench.Number

/-! ## Whole numbers nearest to a quotient -/

theorem roundDiv_eq {n d k : ℕ} (hd : 0 < d) (hlow : 2 * (k * d) ≤ 2 * n + d)
    (hhigh : 2 * n ≤ 2 * (k * d) + d)
    (htie : k % 2 = 0 ∨ 2 * (k * d) < 2 * n + d ∧ 2 * n < 2 * (k * d) + d) :
    roundDiv n d = k := by
  have hn : d * (n / d) + n % d = n := Nat.div_add_mod n d
  have hr : n % d < d := Nat.mod_lt n hd
  have hle : k ≤ n / d + 1 := by
    by_contra hlt
    have : (n / d + 2) * d ≤ k * d := Nat.mul_le_mul_right d (by omega)
    have : (n / d + 2) * d = d * (n / d) + 2 * d := by ring
    omega
  have hge : n / d ≤ k := by
    by_contra hlt
    have : (k + 1) * d ≤ n / d * d := Nat.mul_le_mul_right d (by omega)
    have : (k + 1) * d = k * d + d := by ring
    have : n / d * d = d * (n / d) := by ring
    omega
  unfold roundDiv
  dsimp only
  rcases Nat.lt_or_ge (n / d) k with hk | hk
  · have hk : k = n / d + 1 := by omega
    subst hk
    have hexpand : (n / d + 1) * d = d * (n / d) + d := by ring
    rw [hexpand] at hlow hhigh htie
    split
    · omega
    · split
      · rfl
      · split <;> omega
  · have hk : k = n / d := by omega
    subst hk
    have hexpand : n / d * d = d * (n / d) := by ring
    rw [hexpand] at hlow hhigh htie
    split
    · rfl
    · split
      · omega
      · split <;> omega

/-- A quotient at most half away from a whole number is rounded to it, a tie if the number is
even. -/
theorem roundDiv_of_near {n d k : ℕ} (hd : 0 < d) (hlow : (k : ℚ) - 1 / 2 ≤ n / d)
    (hhigh : (n / d : ℚ) ≤ k + 1 / 2)
    (htie : k % 2 = 0 ∨ (k : ℚ) - 1 / 2 < n / d ∧ (n / d : ℚ) < k + 1 / 2) :
    roundDiv n d = k := by
  have hd' : (0 : ℚ) < d := by exact_mod_cast hd
  rw [le_div_iff₀ hd'] at hlow
  rw [div_le_iff₀ hd'] at hhigh
  rw [lt_div_iff₀ hd', div_lt_iff₀ hd'] at htie
  apply roundDiv_eq hd
  · have : (2 * (k * d) : ℚ) ≤ 2 * n + d := by linarith
    exact_mod_cast this
  · have : (2 * n : ℚ) ≤ 2 * (k * d) + d := by linarith
    exact_mod_cast this
  · refine htie.imp_right fun h => ⟨?_, ?_⟩
    · have : (2 * (k * d) : ℚ) < 2 * n + d := by linarith [h.1]
      exact_mod_cast this
    · have : (2 * n : ℚ) < 2 * (k * d) + d := by linarith [h.2]
      exact_mod_cast this

/-! ## The exponent of a quotient -/

/-- The exponent at which a quotient has 53 bits before the point. -/
def leadingExponent (num den : ℕ) : ℤ :=
  let guess : ℤ := (num.log2 : ℤ) - (den.log2 : ℤ) - 52
  if 0 ≤ guess then (if num < den * Nat.pow 2 (guess.toNat + 52) then guess - 1 else guess)
  else (if num * Nat.pow 2 (-guess).toNat < den * Nat.pow 2 52 then guess - 1 else guess)

/-- The whole number nearest to a quotient in units of a power of two. -/
def roundAt (num den : ℕ) (e : ℤ) : ℕ :=
  if 0 ≤ e then roundDiv num (den * Nat.pow 2 e.toNat) else roundDiv (num * Nat.pow 2 (-e).toNat) den

theorem lt_shift_iff {num den : ℕ} (hden : 0 < den) (g : ℤ) :
    (if 0 ≤ g then num < den * Nat.pow 2 (g.toNat + 52)
      else num * Nat.pow 2 (-g).toNat < den * Nat.pow 2 52) ↔
      (num / den : ℚ) < 2 ^ (g + 52) := by
  have hden' : (0 : ℚ) < den := by exact_mod_cast hden
  rw [div_lt_iff₀ hden', zpow_add₀ (by norm_num), mul_assoc]
  simp only [Nat.pow_eq]
  split
  next hg =>
    obtain ⟨k, rfl⟩ := Int.eq_ofNat_of_zero_le hg
    rw [Int.toNat_natCast, zpow_natCast, pow_add, mul_comm, mul_assoc]
    norm_cast
  next hg =>
    obtain ⟨k, rfl⟩ : ∃ k : ℕ, g = -(k : ℤ) := ⟨(-g).toNat, by omega⟩
    rw [neg_neg, Int.toNat_natCast, zpow_neg, zpow_natCast, ← div_eq_inv_mul,
      lt_div_iff₀ (by positivity), mul_comm den]
    norm_cast

/-- A quotient lies between the powers of two that its leading exponent gives. -/
theorem leadingExponent_spec {num den : ℕ} (hnum : num ≠ 0) (hden : 0 < den) :
    (2 : ℚ) ^ (leadingExponent num den + 52) ≤ num / den ∧
      (num / den : ℚ) < 2 ^ (leadingExponent num den + 53) := by
  have hden' : (0 : ℚ) < den := by exact_mod_cast hden
  have htwo : (0 : ℚ) < 2 := by norm_num
  set a := num.log2
  set c := den.log2
  have hlow : (2 : ℚ) ^ ((a : ℤ) - c - 1) ≤ num / den := by
    have h1 : (2 : ℚ) ^ a ≤ num := by exact_mod_cast Nat.log2_self_le hnum
    have h2 : (den : ℚ) ≤ 2 ^ (c + 1) := by exact_mod_cast Nat.lt_log2_self.le
    rw [le_div_iff₀ hden', sub_sub, zpow_sub₀ htwo.ne', div_mul_eq_mul_div, div_le_iff₀ (by positivity)]
    have h3 : (2 : ℚ) ^ ((c : ℤ) + 1) = 2 ^ (c + 1) := by norm_cast
    rw [h3, zpow_natCast]
    exact mul_le_mul h1 h2 hden'.le (by positivity)
  have hhigh : (num / den : ℚ) < 2 ^ ((a : ℤ) - c + 1) := by
    have h1 : (num : ℚ) < 2 ^ (a + 1) := by exact_mod_cast Nat.lt_log2_self
    have h2 : (2 : ℚ) ^ c ≤ den := by exact_mod_cast Nat.log2_self_le hden.ne'
    have h3 : (2 : ℚ) ^ ((a : ℤ) + 1) = 2 ^ (a + 1) := by norm_cast
    rw [div_lt_iff₀ hden', sub_add_eq_add_sub, zpow_sub₀ htwo.ne', div_mul_eq_mul_div,
      lt_div_iff₀ (by positivity), h3, zpow_natCast]
    exact mul_lt_mul h1 h2 (by positivity) (by positivity)
  have hcmp := @lt_shift_iff num den hden (a - c - 52)
  have hcases : leadingExponent num den = if (num / den : ℚ) < 2 ^ ((a : ℤ) - c - 52 + 52)
      then (a : ℤ) - c - 52 - 1 else a - c - 52 := by
    unfold leadingExponent
    simp only [← hcmp]
    split <;> rfl
  rw [hcases]
  split
  next h =>
    refine ⟨?_, ?_⟩
    · convert hlow using 2
      ring
    · convert h using 2
      ring
  next h =>
    refine ⟨not_lt.1 h, ?_⟩
    convert hhigh using 2
    ring

/-- A quotient in units of a power of two that is at most half away from a whole number is rounded
to it, a tie if the number is even. -/
theorem roundAt_eq {num den k : ℕ} (hden : 0 < den) (e : ℤ)
    (hlow : (k : ℚ) - 1 / 2 ≤ num / den / 2 ^ e) (hhigh : (num / den / 2 ^ e : ℚ) ≤ k + 1 / 2)
    (htie : k % 2 = 0 ∨
      (k : ℚ) - 1 / 2 < num / den / 2 ^ e ∧ (num / den / 2 ^ e : ℚ) < k + 1 / 2) :
    roundAt num den e = k := by
  unfold roundAt
  simp only [Nat.pow_eq]
  split
  next he =>
    obtain ⟨j, rfl⟩ := Int.eq_ofNat_of_zero_le he
    have hratio : (num / (den * 2 ^ j : ℕ) : ℚ) = num / den / 2 ^ (j : ℤ) := by
      rw [zpow_natCast]
      push_cast
      rw [div_div]
    rw [← hratio] at hlow hhigh htie
    exact roundDiv_of_near (by positivity) hlow hhigh htie
  next he =>
    obtain ⟨j, rfl⟩ : ∃ j : ℕ, e = -(j : ℤ) := ⟨(-e).toNat, by omega⟩
    have hratio : ((num * 2 ^ j : ℕ) / den : ℚ) = num / den / 2 ^ (-(j : ℤ)) := by
      rw [zpow_neg, zpow_natCast, div_inv_eq_mul]
      push_cast
      rw [mul_div_right_comm]
    rw [← hratio] at hlow hhigh htie
    rw [neg_neg, Int.toNat_natCast]
    exact roundDiv_of_near hden hlow hhigh htie

/-! ## Rounding ranges -/

/-- How far below a number its rounding range reaches, in units of the last place: less where the
numbers below are closer together. -/
def Binary.reach (b : Binary) : ℚ :=
  if b.significand = 2 ^ 52 ∧ -1074 < b.exponent then 1 / 4 else 1 / 2

/-- Is a quotient in the rounding range of a number? The ends belong to it if the significand is
even. -/
structure Binary.Attracts (b : Binary) (v : ℚ) : Prop where
  low : (b.significand : ℚ) - b.reach ≤ v / 2 ^ b.exponent
  high : v / 2 ^ b.exponent ≤ b.significand + 1 / 2
  tie : b.significand % 2 = 0 ∨
    (b.significand : ℚ) - b.reach < v / 2 ^ b.exponent ∧ v / 2 ^ b.exponent < b.significand + 1 / 2

theorem Binary.reach_le (b : Binary) : b.reach ≤ 1 / 2 := by
  unfold Binary.reach
  split <;> norm_num

theorem Binary.Attracts.leadingExponent_le {b : Binary} (hb : b.Fits) {num den : ℕ}
    (hnum : num ≠ 0) (hden : 0 < den) (h : b.Attracts (num / den)) :
    leadingExponent num den ≤ b.exponent := by
  have hlead := (leadingExponent_spec hnum hden).1
  have hpos : (0 : ℚ) < 2 ^ b.exponent := by positivity
  have hsize : (b.significand : ℚ) + 1 / 2 < 2 ^ 53 := by
    have : (b.significand : ℚ) + 1 ≤ 2 ^ 53 := by exact_mod_cast hb.significand_lt
    linarith
  have hv : (num / den : ℚ) < 2 ^ (b.exponent + 53) := by
    rw [zpow_add₀ (by norm_num), mul_comm, ← div_lt_iff₀ hpos]
    exact h.high.trans_lt hsize
  have := (zpow_lt_zpow_iff_right₀ (by norm_num : (1 : ℚ) < 2)).1 (hlead.trans_lt hv)
  omega

/-- Only a power of two attracts quotients whose leading exponent is less than its own. -/
theorem Binary.Attracts.below_power {b : Binary} (hb : b.Fits) {num den : ℕ} (hnum : num ≠ 0)
    (hden : 0 < den) (h : b.Attracts (num / den)) (hexp : -1074 < b.exponent)
    (hlt : leadingExponent num den < b.exponent) :
    b.significand = 2 ^ 52 ∧ leadingExponent num den = b.exponent - 1 := by
  obtain ⟨-, hlead⟩ := leadingExponent_spec hnum hden
  have hpos : (0 : ℚ) < 2 ^ b.exponent := by positivity
  have hv : (num / den / 2 ^ b.exponent : ℚ) < 2 ^ 52 := by
    rw [div_lt_iff₀ hpos, mul_comm]
    have hmono : (2 : ℚ) ^ (leadingExponent num den + 53) ≤ 2 ^ (b.exponent + 52) :=
      zpow_le_zpow_right₀ (by norm_num) (by omega)
    rw [zpow_add₀ (by norm_num) b.exponent] at hmono
    exact hlead.trans_le hmono
  have hlow := h.low
  have hreach := b.reach_le
  have hm : b.significand = 2 ^ 52 := by
    have hle : (b.significand : ℚ) < 2 ^ 52 + 1 := by linarith
    have hle : b.significand < 2 ^ 52 + 1 := by exact_mod_cast hle
    have := hb.filled
    omega
  refine ⟨hm, ?_⟩
  have hge : (2 : ℚ) ^ (b.exponent + 51) ≤ num / den := by
    rw [zpow_add₀ (by norm_num), mul_comm, ← le_div_iff₀ hpos]
    have : (2 : ℚ) ^ (51 : ℤ) ≤ b.significand - b.reach := by
      rw [hm]
      norm_num
      linarith
    exact this.trans hlow
  have := (zpow_lt_zpow_iff_right₀ (by norm_num : (1 : ℚ) < 2)).1 (hge.trans_lt hlead)
  omega

/-- A quotient in the rounding range of a number is rounded to its significand at its exponent, or
it lies just below the power of two that the number is. -/
theorem roundAt_of_attracts {b : Binary} (hb : b.Fits) {num den : ℕ} (hnum : num ≠ 0)
    (hden : 0 < den) (h : b.Attracts (num / den)) :
    ∃ e, max (leadingExponent num den) (-1074) = e ∧
      (e + 1074).toNat * 2 ^ 52 + roundAt num den e = b.magnitudeBits := by
  have hle := h.leadingExponent_le hb hnum hden
  have hmin := hb.le_exponent
  have hreach := b.reach_le
  obtain heq | hlt := eq_or_lt_of_le (max_le hle hmin)
  · refine ⟨b.exponent, heq, ?_⟩
    rw [roundAt_eq hden b.exponent (by linarith [h.low]) h.high
      (h.tie.imp_right fun ht => ⟨by linarith [ht.1], ht.2⟩)]
    rfl
  · -- the quotient has one bit more at the exponent below
    obtain ⟨hm, hlead⟩ := h.below_power hb hnum hden (lt_of_le_of_lt (le_max_right _ _) hlt)
      (lt_of_le_of_lt (le_max_left _ _) hlt)
    have hexp : -1074 < b.exponent := lt_of_le_of_lt (le_max_right _ _) hlt
    refine ⟨b.exponent - 1, by rw [hlead]; omega, ?_⟩
    have hquarter : b.reach = 1 / 4 := if_pos ⟨hm, hexp⟩
    have hdouble : (num / den / 2 ^ (b.exponent - 1) : ℚ) = 2 * (num / den / 2 ^ b.exponent) := by
      rw [zpow_sub_one₀ (by norm_num)]
      field_simp
    have hlow := h.low
    have hhigh : (num / den / 2 ^ b.exponent : ℚ) ≤ 2 ^ 52 := by
      have hpos : (0 : ℚ) < 2 ^ b.exponent := by positivity
      have hspec := (leadingExponent_spec hnum hden).2
      rw [hlead, show b.exponent - 1 + 53 = b.exponent + 52 by ring, zpow_add₀ (by norm_num)] at hspec
      rw [div_le_iff₀ hpos, mul_comm]
      exact hspec.le
    rw [hquarter, hm] at hlow
    push_cast at hlow
    have hround : roundAt num den (b.exponent - 1) = 2 ^ 53 := by
      apply roundAt_eq hden
      · rw [hdouble]
        push_cast
        linarith
      · rw [hdouble]
        push_cast
        linarith
      · exact .inl (by norm_num)
    rw [hround, Binary.magnitudeBits, hm]
    omega

theorem magnitudeBits_lt {b : Binary} (hb : b.Fits) : b.magnitudeBits < 2047 * 2 ^ 52 := by
  have h1 := hb.significand_lt
  have h2 := hb.exponent_le
  have h3 := hb.le_exponent
  unfold Binary.magnitudeBits
  omega

/-- A finite number is made from its sign and the fields of its bits. -/
theorem ofBits_of_ofFloat? {x : Float} {b : Binary} (h : Binary.ofFloat? x = some b) :
    Float.ofBits ((if b.negative then Nat.pow 2 63 else 0) + b.magnitudeBits).toUInt64 = x := by
  have hbits := toBits_of_ofFloat? h
  have : ((if b.negative then Nat.pow 2 63 else 0) + b.magnitudeBits).toUInt64 = x.toBits := by
    rw [← UInt64.toNat_inj, Nat.toUInt64_eq, UInt64.toNat_ofNat', Nat.pow_eq, ← hbits]
    exact Nat.mod_eq_of_lt x.toBits.toNat_lt
  rw [this, ofBits_toBits]

/-- Every quotient in the rounding range of a finite number is rounded to that number. -/
theorem nearest_of_attracts {x : Float} {b : Binary} (hx : Binary.ofFloat? x = some b)
    {num den : ℕ} (hnum : num ≠ 0) (hden : 0 < den) (h : b.Attracts (num / den)) :
    nearest b.negative num den = x := by
  have hb := fits_of_ofFloat? hx
  obtain ⟨e, he, hbits⟩ := roundAt_of_attracts hb hnum hden h
  have hexpand : nearest b.negative num den =
      if 2047 * Nat.pow 2 52 ≤ (e + 1074).toNat * Nat.pow 2 52 + roundAt num den e then
        Float.ofBits ((if b.negative then Nat.pow 2 63 else 0) + 2047 * Nat.pow 2 52).toUInt64
      else Float.ofBits ((if b.negative then Nat.pow 2 63 else 0) +
        ((e + 1074).toNat * Nat.pow 2 52 + roundAt num den e)).toUInt64 := by
    rw [← he, nearest, if_neg hnum]
    rfl
  rw [hexpand, Nat.pow_eq, Nat.pow_eq, hbits, if_neg (not_le.2 (magnitudeBits_lt hb))]
  exact ofBits_of_ofFloat? hx

theorem nearest_zero {x : Float} {b : Binary} (hx : Binary.ofFloat? x = some b)
    (hzero : b.significand = 0) : nearest b.negative 0 1 = x := by
  have hb := fits_of_ofFloat? hx
  have hexp : b.exponent = -1074 := hb.filled.resolve_left (by omega)
  have := ofBits_of_ofFloat? hx
  rw [Binary.magnitudeBits, hexp, hzero] at this
  rw [nearest, if_pos rfl]
  exact this

end QueryBench.Number
