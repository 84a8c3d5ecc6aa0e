import QueryBench.Number.Shortest
import QueryBench.Proofs.Number.Nearest

/-!
# Shortest decimals read back

The search for the shortest decimal ends at seventeen digits at the latest, since a decimal of so
many digits that is nearest to a number lies in its rounding range.

Main statements: `attracts_shortestDigits`, and `ofDecimal_of_attracts` on reading a decimal in a
rounding range.
-/
set_option autoImplicit false

namespace QueryBench.Number

/-! ## Powers of ten -/

theorem scale_spec {num den : ℕ} (hden : 0 < den) (e : ℤ) :
    0 < (scale num den e).2 ∧
      ((scale num den e).1 / (scale num den e).2 : ℚ) = num / den * 10 ^ e := by
  unfold scale
  simp only [Nat.pow_eq]
  split
  next he =>
    obtain ⟨k, rfl⟩ := Int.eq_ofNat_of_zero_le he
    refine ⟨hden, ?_⟩
    rw [Int.toNat_natCast, zpow_natCast]
    push_cast
    rw [mul_div_right_comm]
  next he =>
    obtain ⟨k, rfl⟩ : ∃ k : ℕ, e = -(k : ℤ) := ⟨(-e).toNat, by omega⟩
    rw [neg_neg, Int.toNat_natCast, zpow_neg, zpow_natCast, ← div_eq_mul_inv, div_div]
    refine ⟨by positivity, ?_⟩
    push_cast
    rfl

theorem lt_pow_digitCount (n : ℕ) : n < 10 ^ digitCount n :=
  (Nat.length_toDigits_le_iff (by norm_num) Nat.length_toDigits_pos).1 le_rfl

theorem pow_digitCount_le {n : ℕ} (hn : n ≠ 0) : 10 ^ (digitCount n - 1) ≤ n := by
  by_contra hlt
  have hpos : 0 < digitCount n := Nat.length_toDigits_pos
  rcases Nat.lt_or_ge 1 (digitCount n) with h | h
  · have := (Nat.length_toDigits_le_iff (by norm_num) (by omega)).2 (not_le.1 hlt)
    unfold digitCount at *
    omega
  · have : digitCount n - 1 = 0 := by omega
    rw [this] at hlt
    omega

/-- A quotient is not less than the power of ten that gives its order of magnitude. -/
theorem pow_tenPower_le {num den : ℕ} (hnum : num ≠ 0) (hden : 0 < den) :
    (10 : ℚ) ^ tenPower num den ≤ num / den := by
  have hten : (0 : ℚ) < 10 := by norm_num
  have hden' : (0 : ℚ) < den := by exact_mod_cast hden
  unfold tenPower
  dsimp only
  obtain ⟨hpos, hscale⟩ := scale_spec hden (-((digitCount num : ℤ) - digitCount den))
  set s := scale num den (-((digitCount num : ℤ) - digitCount den))
  split
  next h =>
    have hone : (1 : ℚ) ≤ s.1 / s.2 := by
      rw [le_div_iff₀ (by exact_mod_cast hpos), one_mul]
      exact_mod_cast h
    rw [hscale, zpow_neg, ← div_eq_mul_inv, le_div_iff₀ (by positivity), one_mul] at hone
    exact hone
  next h =>
    have hcount : 0 < digitCount num := Nat.length_toDigits_pos
    have h1 : (10 : ℚ) ^ (digitCount num - 1) ≤ num := by exact_mod_cast pow_digitCount_le hnum
    have h2 : (den : ℚ) ≤ 10 ^ digitCount den := by exact_mod_cast (lt_pow_digitCount den).le
    have h3 : (10 : ℚ) ^ ((digitCount num : ℤ) - 1) = 10 ^ (digitCount num - 1) := by
      rw [← zpow_natCast]
      congr 1
      omega
    rw [le_div_iff₀ hden', sub_right_comm, zpow_sub₀ hten.ne', h3, zpow_natCast, div_mul_eq_mul_div,
      div_le_iff₀ (by positivity)]
    exact mul_le_mul h1 h2 hden'.le (by positivity)

/-! ## Rounding ranges -/

theorem unit_spec {n d : ℕ} (hd : 0 < d) (unit : ℤ) {s : ℕ × ℕ}
    (hs : (if 0 ≤ unit then (n, d * Nat.pow 2 unit.toNat) else (n * Nat.pow 2 (-unit).toNat, d)) =
      s) :
    0 < s.2 ∧ (s.1 / s.2 : ℚ) = n / d / 2 ^ unit := by
  subst hs
  simp only [Nat.pow_eq]
  split
  next he =>
    obtain ⟨k, rfl⟩ := Int.eq_ofNat_of_zero_le he
    refine ⟨by positivity, ?_⟩
    rw [Int.toNat_natCast, zpow_natCast]
    push_cast
    rw [div_div]
  next he =>
    obtain ⟨k, rfl⟩ : ∃ k : ℕ, unit = -(k : ℤ) := ⟨(-unit).toNat, by omega⟩
    refine ⟨hd, ?_⟩
    rw [neg_neg, Int.toNat_natCast, zpow_neg, zpow_natCast, div_inv_eq_mul]
    push_cast
    rw [mul_div_right_comm]

theorem mul_le_iff_le_quotient {n d : ℕ} (hd : 0 < d) (k : ℕ) : k * d ≤ n ↔ (k : ℚ) ≤ n / d := by
  rw [le_div_iff₀ (by exact_mod_cast hd)]
  exact_mod_cast Iff.rfl

theorem le_mul_iff_quotient_le {n d : ℕ} (hd : 0 < d) (k : ℕ) : n ≤ k * d ↔ (n / d : ℚ) ≤ k := by
  rw [div_le_iff₀ (by exact_mod_cast hd)]
  exact_mod_cast Iff.rfl

/-- What a range holds, as rational numbers. -/
theorem RoundingRange.holds_iff (r : RoundingRange) (digits : ℕ) (e : ℤ) :
    r.holds digits e = true ↔
      if r.closed then (r.low : ℚ) ≤ digits * 10 ^ e / 2 ^ r.unit ∧
        digits * 10 ^ e / 2 ^ r.unit ≤ (r.high : ℚ)
      else (r.low : ℚ) < digits * 10 ^ e / 2 ^ r.unit ∧
        digits * 10 ^ e / 2 ^ r.unit < (r.high : ℚ) := by
  obtain ⟨hpos, hscale⟩ := @scale_spec digits 1 Nat.one_pos e
  unfold RoundingRange.holds
  dsimp only
  generalize hs : (if 0 ≤ r.unit then
      ((scale digits 1 e).1, (scale digits 1 e).2 * Nat.pow 2 r.unit.toNat)
    else ((scale digits 1 e).1 * Nat.pow 2 (-r.unit).toNat, (scale digits 1 e).2)) = s
  obtain ⟨hd, hunit⟩ := unit_spec hpos r.unit hs
  rw [hscale, Nat.cast_one, div_one] at hunit
  rw [← hunit]
  split
  · simp only [Bool.and_eq_true, decide_eq_true_eq]
    rw [mul_le_iff_le_quotient hd, le_mul_iff_quotient_le hd]
  · simp only [Bool.and_eq_true, decide_eq_true_eq, ← not_le]
    rw [mul_le_iff_le_quotient hd, le_mul_iff_quotient_le hd]

/-- The range of a positive number holds the decimals that the number attracts. -/
theorem range_holds_iff {b : Binary} (hb : 0 < b.significand) (digits : ℕ) (e : ℤ) :
    b.range.holds digits e = true ↔ b.Attracts (digits * 10 ^ e) := by
  have hlow : (b.range.low : ℚ) = 4 * (b.significand - b.reach) := by
    unfold Binary.range Binary.reach
    simp only [Nat.pow_eq]
    split
    · rw [Nat.cast_sub (by omega)]
      push_cast
      ring
    · rw [Nat.cast_sub (by omega)]
      push_cast
      ring
  have hhigh : (b.range.high : ℚ) = 4 * (b.significand + 1 / 2) := by
    unfold Binary.range
    push_cast
    ring
  have hunit : (digits * 10 ^ e / 2 ^ b.range.unit : ℚ) =
      4 * (digits * 10 ^ e / 2 ^ b.exponent) := by
    show (digits * 10 ^ e / 2 ^ (b.exponent - 2) : ℚ) = _
    rw [zpow_sub₀ (by norm_num)]
    field_simp
    norm_num
  have hclosed : b.range.closed = true ↔ b.significand % 2 = 0 := decide_eq_true_iff
  rw [RoundingRange.holds_iff, hlow, hhigh, hunit]
  simp only [hclosed]
  constructor
  · intro h
    split at h
    next heven => exact ⟨by linarith [h.1], by linarith [h.2], .inl heven⟩
    next heven =>
      exact ⟨by linarith [h.1], by linarith [h.2], .inr ⟨by linarith [h.1], by linarith [h.2]⟩⟩
  · rintro ⟨h1, h2, h3⟩
    split
    next heven => exact ⟨by linarith, by linarith⟩
    next heven =>
      obtain ⟨h4, h5⟩ := h3.resolve_left heven
      exact ⟨by linarith, by linarith⟩

/-! ## The search -/

theorem roundDiv_near {n d : ℕ} (hd : 0 < d) : |(roundDiv n d : ℚ) - n / d| ≤ 1 / 2 := by
  have hd' : (0 : ℚ) < d := by exact_mod_cast hd
  have hn : d * (n / d) + n % d = n := Nat.div_add_mod n d
  have hr : n % d < d := Nat.mod_lt n hd
  have hbounds : 2 * n ≤ 2 * (roundDiv n d * d) + d ∧ 2 * (roundDiv n d * d) ≤ 2 * n + d := by
    have hcases : roundDiv n d = n / d ∧ 2 * (n % d) ≤ d ∨
        roundDiv n d = n / d + 1 ∧ d ≤ 2 * (n % d) := by
      unfold roundDiv
      dsimp only
      split
      · omega
      · split
        · omega
        · split <;> omega
    rcases hcases with ⟨h, hle⟩ | ⟨h, hle⟩
    · have : n / d * d = d * (n / d) := mul_comm _ _
      rw [h]
      omega
    · have : (n / d + 1) * d = d * (n / d) + d := by ring
      rw [h]
      omega
  have h1 : (2 * n : ℚ) ≤ 2 * (roundDiv n d * d) + d := by exact_mod_cast hbounds.1
  have h2 : (2 * (roundDiv n d * d) : ℚ) ≤ 2 * n + d := by exact_mod_cast hbounds.2
  rw [abs_le, le_sub_iff_add_le, sub_le_iff_le_add, ← sub_le_iff_le_add', le_div_iff₀ hd',
    neg_add_le_iff_le_add, div_le_iff₀ hd']
  constructor <;> linarith

/-- The whole number nearest to a quotient in units of a power of ten. -/
def candidate (num den : ℕ) (e : ℤ) : ℕ :=
  roundDiv (scale num den (-e)).1 (scale num den (-e)).2

/-- One count of digits: the nearest decimal, the one on the other side, or more digits. -/
theorem searchDigits_succ (r : RoundingRange) (num den : ℕ) (p : ℤ) (count fuel : ℕ) :
    ∃ other, searchDigits r num den p count (fuel + 1) =
      if r.holds (candidate num den (p - count + 1)) (p - count + 1) then
        (candidate num den (p - count + 1), p - count + 1)
      else if r.holds other (p - count + 1) then (other, p - count + 1)
      else searchDigits r num den p (count + 1) fuel :=
  ⟨_, rfl⟩

/-- The search finds a decimal in the range if the nearest one with any of the tried numbers of
digits is in it. -/
theorem holds_searchDigits (r : RoundingRange) (num den : ℕ) (p : ℤ) {c : ℕ}
    (hc : r.holds (candidate num den (p - c + 1)) (p - c + 1) = true) :
    ∀ fuel count, count ≤ c → c < count + fuel →
      r.holds (searchDigits r num den p count fuel).1 (searchDigits r num den p count fuel).2 =
        true := by
  intro fuel
  induction fuel with
  | zero => omega
  | succ fuel ih =>
    intro count hle hlt
    obtain ⟨other, hstep⟩ := searchDigits_succ r num den p count fuel
    rw [hstep]
    split
    next h => exact h
    next hnearer =>
      split
      next h => exact h
      next hother =>
        refine ih (count + 1) ?_ (by omega)
        rcases Nat.lt_or_eq_of_le hle with h | h
        · exact h
        · subst h
          exact absurd hc hnearer

theorem ratio_spec (b : Binary) :
    0 < b.ratio.2 ∧ (b.ratio.1 / b.ratio.2 : ℚ) = b.significand * 2 ^ b.exponent := by
  unfold Binary.ratio
  simp only [Nat.pow_eq]
  split
  next he =>
    obtain ⟨k, hk⟩ := Int.eq_ofNat_of_zero_le he
    refine ⟨Nat.one_pos, ?_⟩
    rw [hk, Int.toNat_natCast, zpow_natCast]
    push_cast
    rw [div_one]
  next he =>
    obtain ⟨k, hk⟩ : ∃ k : ℕ, b.exponent = -(k : ℤ) := ⟨(-b.exponent).toNat, by omega⟩
    refine ⟨by positivity, ?_⟩
    rw [hk, neg_neg, Int.toNat_natCast, zpow_neg, zpow_natCast, ← div_eq_mul_inv]
    push_cast
    rfl

/-- A decimal that is off by less than the reach of a number lies in its rounding range. -/
theorem attracts_of_near {b : Binary} {v : ℚ}
    (h : |v / 2 ^ b.exponent - b.significand| < b.reach) : b.Attracts v := by
  have hreach := b.reach_le
  obtain ⟨h1, h2⟩ := abs_lt.1 h
  exact ⟨by linarith, by linarith, .inr ⟨by linarith, by linarith⟩⟩

/-- Half a unit of the seventeenth digit is less than the reach of a number. -/
theorem significand_lt_reach {b : Binary} (hb : b.Fits) :
    (b.significand : ℚ) / (2 * 10 ^ 16) < b.reach := by
  rw [div_lt_iff₀ (by positivity), Binary.reach]
  split
  next h =>
    rw [h.1]
    norm_num
  next =>
    have : (b.significand : ℚ) < 2 ^ 53 := by exact_mod_cast hb.significand_lt
    refine this.trans ?_
    norm_num

/-- Seventeen digits are enough: the error is at most half a unit of the seventeenth digit. -/
theorem attracts_candidate {b : Binary} (hb : b.Fits) {p : ℤ}
    (hp : (10 : ℚ) ^ p ≤ b.significand * 2 ^ b.exponent) :
    b.Attracts (candidate b.ratio.1 b.ratio.2 (p - 16) * 10 ^ (p - 16)) := by
  obtain ⟨hden, hratio⟩ := ratio_spec b
  obtain ⟨hd, hscale⟩ := @scale_spec b.ratio.1 b.ratio.2 hden (-(p - 16))
  have hnear := @roundDiv_near (scale b.ratio.1 b.ratio.2 (-(p - 16))).1 _ hd
  rw [hscale, hratio] at hnear
  have hten : (0 : ℚ) < 10 ^ (p - 16) := by positivity
  have htwo : (0 : ℚ) < 2 ^ b.exponent := by positivity
  apply attracts_of_near
  set k : ℚ := (candidate b.ratio.1 b.ratio.2 (p - 16) : ℚ)
  have herror : |k * 10 ^ (p - 16) / 2 ^ b.exponent - b.significand| =
      |k - b.significand * 2 ^ b.exponent * 10 ^ (-(p - 16))| * (10 ^ (p - 16) / 2 ^ b.exponent) := by
    rw [← abs_of_pos (div_pos hten htwo), ← abs_mul, zpow_neg]
    congr 1
    field_simp
  have hunit : (10 : ℚ) ^ (p - 16) / 2 ^ b.exponent ≤ b.significand / 10 ^ 16 := by
    rw [div_le_div_iff₀ htwo (by positivity), zpow_sub₀ (by norm_num)]
    have : (10 : ℚ) ^ p / 10 ^ (16 : ℤ) * 10 ^ 16 = 10 ^ p := by
      norm_num
    rw [this]
    exact hp
  calc |k * 10 ^ (p - 16) / 2 ^ b.exponent - b.significand|
      = |k - b.significand * 2 ^ b.exponent * 10 ^ (-(p - 16))| *
          (10 ^ (p - 16) / 2 ^ b.exponent) := herror
    _ ≤ 1 / 2 * (b.significand / 10 ^ 16) :=
        mul_le_mul hnear hunit (div_pos hten htwo).le (by norm_num)
    _ = b.significand / (2 * 10 ^ 16) := by ring
    _ < b.reach := significand_lt_reach hb

/-- The shortest decimal of a positive number lies in its rounding range. -/
theorem attracts_shortestDigits {b : Binary} (hb : b.Fits) (hpos : 0 < b.significand) :
    b.Attracts ((shortestDigits b).1 * 10 ^ (shortestDigits b).2) := by
  obtain ⟨hden, hratio⟩ := ratio_spec b
  have hnum : b.ratio.1 ≠ 0 := by
    intro hzero
    rw [hzero, Nat.cast_zero, zero_div] at hratio
    have : (0 : ℚ) < b.significand * 2 ^ b.exponent := by positivity
    exact this.ne hratio
  have hp := pow_tenPower_le hnum hden
  rw [hratio] at hp
  have hseventeen : b.range.holds
      (candidate b.ratio.1 b.ratio.2 (tenPower b.ratio.1 b.ratio.2 - (17 : ℕ) + 1))
      (tenPower b.ratio.1 b.ratio.2 - (17 : ℕ) + 1) = true := by
    have hexp : tenPower b.ratio.1 b.ratio.2 - (17 : ℕ) + 1 =
        tenPower b.ratio.1 b.ratio.2 - 16 := by
      push_cast
      ring
    rw [range_holds_iff hpos, hexp]
    exact attracts_candidate hb hp
  rw [← range_holds_iff hpos]
  exact holds_searchDigits b.range _ _ _ hseventeen 17 1 (by norm_num) (by norm_num)

/-! ## Reading a decimal -/

/-- The decimals that a positive number attracts are not too small to be read. -/
theorem Binary.Attracts.pow_le {b : Binary} (hb : b.Fits) (hpos : 0 < b.significand) {v : ℚ}
    (h : b.Attracts v) : (10 : ℚ) ^ (-401 : ℤ) ≤ v := by
  have htwo : (0 : ℚ) < 2 ^ b.exponent := by positivity
  have hone : (1 : ℚ) ≤ b.significand := by exact_mod_cast hpos
  have hhalf : (1 / 2 : ℚ) ≤ v / 2 ^ b.exponent := by linarith [h.low, b.reach_le]
  rw [le_div_iff₀ htwo] at hhalf
  calc (10 : ℚ) ^ (-401 : ℤ) ≤ 8 ^ (-401 : ℤ) := by
        rw [zpow_neg, zpow_neg]
        exact inv_anti₀ (by positivity) (zpow_le_zpow_left₀ (by norm_num) (by norm_num) (by norm_num))
    _ = 2 ^ (3 * -401 : ℤ) := by rw [zpow_mul]; rfl
    _ ≤ 2 ^ (b.exponent - 1) :=
        zpow_le_zpow_right₀ (by norm_num) (by linarith [hb.le_exponent])
    _ = 1 / 2 * 2 ^ b.exponent := by rw [zpow_sub_one₀ (by norm_num)]; ring
    _ ≤ v := hhalf

/-- The decimals that a number attracts are not too large to be read. -/
theorem Binary.Attracts.lt_pow {b : Binary} (hb : b.Fits) {v : ℚ} (h : b.Attracts v) :
    v < (10 : ℚ) ^ (400 : ℤ) := by
  have htwo : (0 : ℚ) < 2 ^ b.exponent := by positivity
  have hsize : (b.significand : ℚ) + 1 ≤ 2 ^ 53 := by exact_mod_cast hb.significand_lt
  have hv : v / 2 ^ b.exponent ≤ 2 ^ 53 := by linarith [h.high]
  rw [div_le_iff₀ htwo] at hv
  have hmost : (2 : ℚ) ^ b.exponent ≤ 2 ^ (971 : ℤ) :=
    zpow_le_zpow_right₀ (by norm_num) hb.exponent_le
  have hlarge : (2 : ℚ) ^ 53 * 2 ^ (971 : ℤ) < 10 ^ (400 : ℤ) := by
    exact_mod_cast (by decide +kernel : (2 ^ 53 * 2 ^ 971 : ℕ) < 10 ^ 400)
  calc v ≤ 2 ^ 53 * 2 ^ b.exponent := hv
    _ ≤ 2 ^ 53 * 2 ^ (971 : ℤ) := mul_le_mul_of_nonneg_left hmost (by norm_num)
    _ < 10 ^ (400 : ℤ) := hlarge

/-- A decimal that a positive number attracts is read as that number. -/
theorem ofDecimal_of_attracts {x : Float} {b : Binary} (hx : Binary.ofFloat? x = some b)
    (hpos : 0 < b.significand) {digits : ℕ} {e : ℤ} (h : b.Attracts (digits * 10 ^ e)) :
    ofDecimal b.negative digits e = x := by
  have hb := fits_of_ofFloat? hx
  have hlow := h.pow_le hb hpos
  have hhigh := h.lt_pow hb
  have hten : (0 : ℚ) < 10 ^ e := by positivity
  have hdigits : digits ≠ 0 := by
    rintro rfl
    rw [Nat.cast_zero, zero_mul] at hlow
    exact absurd hlow (not_le.2 (by positivity))
  have hone : (1 : ℚ) < 10 := by norm_num
  have hsmall : ¬ (digitCount digits : ℤ) + e < -400 := by
    intro hlt
    have hcount : (digits : ℚ) < 10 ^ (digitCount digits : ℤ) := by
      rw [zpow_natCast]
      exact_mod_cast lt_pow_digitCount digits
    have hv : (digits * 10 ^ e : ℚ) < 10 ^ ((digitCount digits : ℤ) + e) := by
      rw [zpow_add₀ (by norm_num)]
      exact mul_lt_mul_of_pos_right hcount hten
    have := (zpow_lt_zpow_iff_right₀ hone).1 (hlow.trans_lt hv)
    omega
  have hlarge : ¬ 400 < (digitCount digits : ℤ) + e := by
    intro hlt
    have hcount : (10 : ℚ) ^ (digitCount digits - 1 : ℕ) ≤ digits := by
      exact_mod_cast pow_digitCount_le hdigits
    have hv : (10 : ℚ) ^ (((digitCount digits - 1 : ℕ) : ℤ) + e) ≤ digits * 10 ^ e := by
      rw [zpow_add₀ (by norm_num), zpow_natCast]
      exact mul_le_mul_of_nonneg_right hcount hten.le
    have := (zpow_lt_zpow_iff_right₀ hone).1 (hv.trans_lt hhigh)
    omega
  obtain ⟨hden, hscale⟩ := @scale_spec digits 1 Nat.one_pos e
  rw [Nat.cast_one, div_one] at hscale
  have hnum : (scale digits 1 e).1 ≠ 0 := by
    intro hzero
    rw [hzero, Nat.cast_zero, zero_div] at hscale
    have : (0 : ℚ) < digits * 10 ^ e := by positivity
    exact this.ne hscale
  rw [ofDecimal, if_neg (not_or.2 ⟨hdigits, hsmall⟩), if_neg hlarge]
  exact nearest_of_attracts hx hnum hden (hscale ▸ h)

end QueryBench.Number
