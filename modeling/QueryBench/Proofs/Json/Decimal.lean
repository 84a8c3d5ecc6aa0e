import Mathlib.Algebra.Order.Field.Rat
import Mathlib.Data.List.TakeWhile
import Mathlib.Tactic.Linarith
import QueryBench.Proofs.Json.Numeral

/-!
# Floating point numbers in written documents

The text of a finite number is a spelling whose digits and exponent give the shortest decimal of the
number, so it is read back as the number. Numbers that are not finite are written as words.

Main statements: `realSpelling_text`, `nearestValue_real`, and `subset_realText` on the glyphs that a
number is written with.
-/
set_option autoImplicit false

namespace QueryBench.Json
open Number

/-! ## Significant digits -/

theorem significantDigits_eq (n : Nat) :
    Nat.toDigits 10 n =
      (significantDigits n).1 ++ List.replicate (significantDigits n).2 '0' := by
  set ds := Nat.toDigits 10 n with hds
  have hsplit : ds = (ds.reverse.dropWhile (· = '0')).reverse ++
      (ds.reverse.takeWhile (· = '0')).reverse := by
    rw [← List.reverse_append, List.takeWhile_append_dropWhile, List.reverse_reverse]
  have hzeros : (ds.reverse.takeWhile (· = '0')).reverse =
      List.replicate (ds.reverse.takeWhile (· = '0')).length '0' := by
    rw [List.eq_replicate_iff]
    refine ⟨by simp, fun c hc => ?_⟩
    have := List.mem_takeWhile_imp (List.mem_reverse.1 hc)
    simpa using this
  have hcut : (significantDigits n).2 = (ds.reverse.takeWhile (· = '0')).length := by
    have hlength := congrArg List.length hsplit
    simp only [List.length_append, List.length_reverse] at hlength
    simp only [significantDigits, ← hds, List.length_reverse]
    omega
  rw [hcut, ← hzeros]
  exact hsplit

/-- The significant digits of a positive number, and their value. -/
theorem significantDigits_spec {n : Nat} (hn : n ≠ 0) :
    (significantDigits n).1 ≠ [] ∧ (significantDigits n).1.head? ≠ some '0' ∧
      (∀ c ∈ (significantDigits n).1, c.isDigit = true) ∧
      Nat.ofDigitChars 10 (significantDigits n).1 0 * 10 ^ (significantDigits n).2 = n := by
  have heq := significantDigits_eq n
  have hhead := toDigits_head hn
  have hvalue := @Nat.ofDigitChars_ten_toDigits n
  have hdigits : ∀ c ∈ Nat.toDigits 10 n, c.isDigit = true := fun c hc =>
    Nat.isDigit_of_mem_toDigits (by norm_num) (by norm_num) hc
  have hnil : Nat.toDigits 10 n ≠ [] := Nat.toDigits_ne_nil
  rw [heq] at hhead hvalue hdigits hnil
  have hne : (significantDigits n).1 ≠ [] := by
    intro hempty
    rw [hempty, List.nil_append] at hhead hnil
    apply hhead
    cases hcount : (significantDigits n).2 with
    | zero => simp [hcount] at hnil
    | succ k => rfl
  refine ⟨hne, ?_, fun c hc => hdigits c (List.mem_append_left _ hc), ?_⟩
  · rwa [List.head?_append_of_ne_nil _ hne] at hhead
  · rw [Nat.ofDigitChars_append, Nat.ofDigitChars_replicate_zero, mul_comm] at hvalue
    exact hvalue

/-! ## Decimals -/

/-- The characters as glyphs. -/
def glyphs (cs : List Char) : Text := cs.map .char

/-- The places before the point of a decimal, when its significant digits come first. -/
def pointOf (digits : Nat) (e : Int) : Int :=
  (significantDigits digits).1.length + (e + (significantDigits digits).2)

/-- How the decimal `digits * 10 ^ e` is written. -/
def decimalSpelling (negative : Bool) (digits : Nat) (e : Int) : Spelling :=
  let ds := (significantDigits digits).1
  let point := pointOf digits e
  if -4 < point ∧ point ≤ 16 then
    if point ≤ 0 then ⟨negative, glyphs ['0'], some (glyphs (zeros (-point).toNat ++ ds)), none⟩
    else if ds.length ≤ point.toNat then
      ⟨negative, glyphs (ds ++ zeros (point.toNat - ds.length)), some (glyphs ['0']), none⟩
    else ⟨negative, glyphs (ds.take point.toNat), some (glyphs (ds.drop point.toNat)), none⟩
  else
    ⟨negative, glyphs (ds.take 1),
      if (ds.drop 1).isEmpty then none else some (glyphs (ds.drop 1)),
      some (decide (point - 1 < 0), glyphs (zeros (2 - digitCount (point - 1).natAbs) ++
        Nat.toDigits 10 (point - 1).natAbs))⟩

theorem ofString_exponentText (e : Int) :
    Text.ofString (exponentText e) = .char (if e < 0 then '-' else '+') ::
      glyphs (zeros (2 - digitCount e.natAbs) ++ Nat.toDigits 10 e.natAbs) := by
  unfold exponentText
  dsimp only
  rw [ofString_append, ofString_ofList]
  split <;> rfl

theorem decimalSpelling_text (negative : Bool) (digits : Nat) (e : Int) :
    (decimalSpelling negative digits e).text =
      Text.ofString (if negative then "-" else "") ++ Text.ofString (decimalText digits e) := by
  have hsign : Text.ofString (if negative then "-" else "") =
      if negative then [Glyph.char '-'] else [] := by
    cases negative <;> rfl
  have hpoint : ((significantDigits digits).1.length : Int) + (e + (significantDigits digits).2) =
      pointOf digits e := rfl
  have hmark : Text.ofString "0." = [.char '0', .char '.'] := rfl
  have hdot : Text.ofString "." = [.char '.'] := rfl
  have hzero : Text.ofString ".0" = [.char '.', .char '0'] := rfl
  have he : Text.ofString "e" = [.char 'e'] := rfl
  rw [hsign]
  unfold decimalSpelling decimalText
  dsimp only
  rw [hpoint]
  split
  · split
    · simp [Spelling.text, Spelling.fractionText, Spelling.exponentText, ofString_append,
        ofString_ofList, glyphs, hmark]
    · split
      · simp [Spelling.text, Spelling.fractionText, Spelling.exponentText, ofString_append,
          ofString_ofList, glyphs, hzero]
      · simp [Spelling.text, Spelling.fractionText, Spelling.exponentText, ofString_append,
          ofString_ofList, glyphs, hdot]
  · rw [ofString_append, ofString_append, ofString_append, ofString_ofList, ofString_exponentText, he]
    split
    · simp [Spelling.text, Spelling.fractionText, Spelling.exponentText, glyphs, Text.ofString]
    · simp [Spelling.text, Spelling.fractionText, Spelling.exponentText, glyphs, ofString_append,
        ofString_ofList, hdot]

theorem mem_glyphs {cs : List Char} (hcs : ∀ c ∈ cs, c.isDigit = true) :
    ∀ g ∈ glyphs cs, isDigit g = true := by
  intro g hg
  obtain ⟨c, hc, rfl⟩ := List.mem_map.1 hg
  exact hcs c hc

theorem isDigit_zeros (n : Nat) : ∀ c ∈ zeros n, c.isDigit = true := by
  intro c hc
  rw [List.eq_of_mem_replicate hc]
  decide

theorem decimalSpelling_wellFormed (negative : Bool) {digits : Nat} (hdigits : digits ≠ 0) (e : Int) :
    (decimalSpelling negative digits e).WellFormed := by
  obtain ⟨hne, hhead, hds, -⟩ := significantDigits_spec hdigits
  unfold decimalSpelling
  dsimp only
  generalize (significantDigits digits).1 = ds at hne hhead hds
  generalize pointOf digits e = point
  obtain ⟨d, rest, rfl⟩ := List.exists_cons_of_ne_nil hne
  have hlead : d ≠ '0' := by simpa using hhead
  have hzeros := isDigit_zeros
  split
  · split
    · refine ⟨by simp [glyphs], mem_glyphs (isDigit_zeros 1), by simp [glyphs], by simp [glyphs], ?_,
        by simp, by simp⟩
      intro ds hmem
      cases hmem
      apply mem_glyphs
      intro c hc
      rcases List.mem_append.1 hc with h | h
      · exact hzeros _ c h
      · exact hds c h
    · split
      · refine ⟨by simp [glyphs], mem_glyphs ?_, by simp [glyphs, hlead], by simp [glyphs], ?_,
          by simp, by simp⟩
        · intro c hc
          rcases List.mem_append.1 hc with h | h
          · exact hds c h
          · exact hzeros _ c h
        · intro ds hmem
          cases hmem
          exact mem_glyphs (isDigit_zeros 1)
      · rename_i hpos hlong
        obtain ⟨k, hk⟩ : ∃ k, point.toNat = k + 1 := ⟨point.toNat - 1, by omega⟩
        rw [hk] at hlong ⊢
        refine ⟨by simp [glyphs], mem_glyphs fun c hc => hds c (List.mem_of_mem_take hc),
          by simp [glyphs, hlead], ?_, ?_, by simp, by simp⟩
        · simp only [glyphs, ne_eq, Option.some.injEq, List.map_eq_nil_iff, List.drop_eq_nil_iff]
          omega
        · intro ds hmem
          cases hmem
          exact mem_glyphs fun c hc => hds c (List.mem_of_mem_drop hc)
  · refine ⟨by simp [glyphs], mem_glyphs fun c hc => hds c (List.mem_of_mem_take hc),
      by simp [glyphs, hlead], ?_, ?_, ?_, ?_⟩
    · split
      · simp
      · rename_i hdrop
        simpa [glyphs] using hdrop
    · intro ds hmem
      split at hmem
      · cases hmem
      · cases hmem
        exact mem_glyphs fun c hc => hds c (List.mem_of_mem_drop hc)
    · intro x hmem
      cases hmem
      simp [glyphs, Nat.toDigits_ne_nil]
    · intro x hmem
      cases hmem
      apply mem_glyphs
      intro c hc
      rcases List.mem_append.1 hc with h | h
      · exact hzeros _ c h
      · exact Nat.isDigit_of_mem_toDigits (by norm_num) (by norm_num) h

/-- The rational number a numeral with a point or an exponent stands for. -/
def Numeral.quotient (n : Numeral) : ℚ :=
  digitsValue (n.whole ++ n.fraction.getD []) *
    10 ^ (n.exponent.getD 0 - (n.fraction.getD []).length)

theorem ofDigitChars_zeros (n : Nat) (cs : List Char) :
    Nat.ofDigitChars 10 (zeros n ++ cs) 0 = Nat.ofDigitChars 10 cs 0 := by
  rw [zeros, Nat.ofDigitChars_append, Nat.ofDigitChars_replicate_zero, Nat.mul_zero]

theorem digitsValue_glyphs (cs : List Char) : digitsValue (glyphs cs) = Nat.ofDigitChars 10 cs 0 :=
  digitsValue_map cs

/-- The exponent of a spelling, with zeros before it, has its value. -/
theorem exponent_value (x : Int) (k : Nat) :
    (if decide (x < 0) then -(digitsValue (glyphs (zeros k ++ Nat.toDigits 10 x.natAbs)) : Int)
      else digitsValue (glyphs (zeros k ++ Nat.toDigits 10 x.natAbs))) = x := by
  rw [digitsValue_glyphs, ofDigitChars_zeros, Nat.ofDigitChars_ten_toDigits]
  simp only [decide_eq_true_eq]
  split <;> omega

/-- A decimal is written as the number it is. -/
theorem decimalSpelling_quotient (negative : Bool) {digits : Nat} (hdigits : digits ≠ 0) (e : Int) :
    (decimalSpelling negative digits e).numeral.quotient = digits * 10 ^ e := by
  obtain ⟨hne, -, -, hvalue⟩ := significantDigits_spec hdigits
  have hpoint : pointOf digits e =
      (significantDigits digits).1.length + (e + (significantDigits digits).2) := rfl
  have hgoal : (digits * 10 ^ e : ℚ) =
      Nat.ofDigitChars 10 (significantDigits digits).1 0 *
        10 ^ (pointOf digits e - (significantDigits digits).1.length) := by
    rw [hpoint, add_sub_cancel_left, zpow_add₀ (by norm_num), zpow_natCast]
    have hcast : (digits : ℚ) = Nat.ofDigitChars 10 (significantDigits digits).1 0 *
        10 ^ (significantDigits digits).2 := by exact_mod_cast hvalue.symm
    rw [hcast]
    ring
  rw [hgoal]
  unfold decimalSpelling Numeral.quotient Spelling.numeral
  dsimp only
  generalize (significantDigits digits).1 = ds at hne
  generalize pointOf digits e = point
  have happend : ∀ a b : List Char, glyphs a ++ glyphs b = glyphs (a ++ b) := by
    intro a b
    simp [glyphs]
  have hlength : ∀ cs : List Char, (glyphs cs).length = cs.length := by
    intro cs
    simp [glyphs]
  split
  · split
    · -- the point stands before the digits
      rename_i hle
      have hcons : ['0'] ++ (zeros (-point).toNat ++ ds) = zeros ((-point).toNat + 1) ++ ds := rfl
      simp only [Option.getD_some, Option.map_none, Option.getD_none, happend, hcons,
        digitsValue_glyphs, ofDigitChars_zeros, hlength]
      congr 2
      simp only [zeros, List.length_append, List.length_replicate]
      omega
    · split
      · -- zeros stand between the digits and the point
        rename_i hpos hshort
        have hcons : ds ++ zeros (point.toNat - ds.length) ++ ['0'] =
            ds ++ zeros (point.toNat - ds.length + 1) := by
          simp [zeros, List.replicate_succ']
        simp only [Option.getD_some, Option.map_none, Option.getD_none, happend, hcons,
          digitsValue_glyphs, hlength]
        rw [zeros, Nat.ofDigitChars_append, Nat.ofDigitChars_replicate_zero]
        have hexp : point - ds.length = ((point.toNat - ds.length : ℕ) : ℤ) := by omega
        rw [hexp, zpow_natCast, pow_succ]
        push_cast
        norm_num
        ring
      · -- the point stands between the digits
        rename_i hpos hlong
        simp only [Option.getD_some, Option.map_none, Option.getD_none, happend,
          List.take_append_drop, digitsValue_glyphs, hlength]
        congr 2
        rw [List.length_drop]
        omega
  · simp only [Option.map_some, Option.getD_some, exponent_value]
    split
    · -- there is one digit
      rename_i hdrop
      have hnil : ds.drop 1 = [] := by simpa using hdrop
      have hone : ds.length = 1 := by
        have := List.length_pos_of_ne_nil hne
        have := congrArg List.length hnil
        simp only [List.length_drop, List.length_nil] at this
        omega
      rw [List.take_of_length_le hone.le]
      simp [digitsValue_glyphs, hone]
    · -- the point stands behind the first digit
      have hpos := List.length_pos_of_ne_nil hne
      have hexp : point - 1 - ((ds.length - 1 : ℕ) : ℤ) = point - ds.length := by omega
      simp only [Option.getD_some, happend, List.take_append_drop, digitsValue_glyphs, hlength,
        List.length_drop, hexp]

theorem decimalSpelling_marked (negative : Bool) (digits : Nat) (e : Int) :
    (decimalSpelling negative digits e).fraction.isSome ∨
      (decimalSpelling negative digits e).exponent.isSome := by
  unfold decimalSpelling
  dsimp only
  split
  · split
    · simp
    · split <;> simp
  · simp

theorem decimalSpelling_whole_le (negative : Bool) (digits : Nat) (e : Int) :
    (decimalSpelling negative digits e).whole.length ≤ 16 := by
  unfold decimalSpelling
  dsimp only
  split
  · split
    · simp [glyphs]
    · split
      · simp only [glyphs, zeros, List.length_map, List.length_append, List.length_replicate]
        omega
      · simp only [glyphs, List.length_map, List.length_take]
        omega
  · simp only [glyphs, List.length_map, List.length_take]
    omega

/-! ## Finite numbers -/

/-- How a finite number is written. -/
def realSpelling (b : Binary) : Spelling :=
  if b.significand = 0 then ⟨b.negative, glyphs ['0'], some (glyphs ['0']), none⟩
  else decimalSpelling b.negative (shortestDigits b).1 (shortestDigits b).2

theorem realSpelling_text {x : Float} {b : Binary} (hx : Binary.ofFloat? x = some b) :
    (realSpelling b).text = Text.ofString (floatText x) := by
  unfold realSpelling floatText
  rw [hx]
  dsimp only
  split
  · rw [ofString_append]
    cases b.negative <;> rfl
  · rw [ofString_append]
    exact decimalSpelling_text _ _ _

theorem shortestDigits_ne_zero {b : Binary} (hb : b.Fits) (hpos : b.significand ≠ 0) :
    (shortestDigits b).1 ≠ 0 := by
  intro hzero
  have hpos : 0 < b.significand := Nat.pos_of_ne_zero hpos
  have hle := (attracts_shortestDigits hb hpos).pow_le hb hpos
  rw [hzero, Nat.cast_zero, zero_mul] at hle
  exact absurd hle (not_le.2 (by positivity))

theorem realSpelling_wellFormed {b : Binary} (hb : b.Fits) : (realSpelling b).WellFormed := by
  unfold realSpelling
  split
  · refine ⟨by simp [glyphs], mem_glyphs (isDigit_zeros 1), by simp [glyphs], by simp [glyphs], ?_,
      by simp, by simp⟩
    intro ds hmem
    cases hmem
    exact mem_glyphs (isDigit_zeros 1)
  · rename_i hpos
    exact decimalSpelling_wellFormed _ (shortestDigits_ne_zero hb hpos) _

theorem realSpelling_marked (b : Binary) :
    (realSpelling b).fraction.isSome ∨ (realSpelling b).exponent.isSome := by
  unfold realSpelling
  split
  · simp
  · exact decimalSpelling_marked _ _ _

theorem realSpelling_whole_le (b : Binary) : (realSpelling b).whole.length ≤ 16 := by
  unfold realSpelling
  split
  · simp [glyphs]
  · exact decimalSpelling_whole_le _ _ _

theorem nearestValue_marked {n : Numeral} (h : n.fraction.isSome ∨ n.exponent.isSome) :
    nearestValue n = .ok (.real (ofDecimal n.negative (digitsValue (n.whole ++ n.fraction.getD []))
      (n.exponent.getD 0 - (n.fraction.getD []).length))) := by
  unfold nearestValue
  split
  next hfraction hexponent => simp [hfraction, hexponent] at h
  next => rfl

/-- A finite number is read back from its shortest decimal. -/
theorem nearestValue_real {x : Float} {b : Binary} (hx : Binary.ofFloat? x = some b) :
    nearestValue (realSpelling b).numeral = .ok (.real x) := by
  have hb := fits_of_ofFloat? hx
  have hmarked : (realSpelling b).numeral.fraction.isSome ∨
      (realSpelling b).numeral.exponent.isSome := by
    simpa [Spelling.numeral] using realSpelling_marked b
  have hnegative : (realSpelling b).numeral.negative = b.negative := by
    unfold realSpelling decimalSpelling Spelling.numeral
    dsimp only
    split_ifs <;> rfl
  rw [nearestValue_marked hmarked, hnegative]
  congr 2
  by_cases hzero : b.significand = 0
  · have hdigits : digitsValue ((realSpelling b).numeral.whole ++
        (realSpelling b).numeral.fraction.getD []) = 0 := by
      unfold realSpelling
      rw [if_pos hzero]
      rfl
    rw [hdigits, ofDecimal, if_pos (.inl rfl)]
    exact nearest_zero hx hzero
  · have hpos := Nat.pos_of_ne_zero hzero
    have hquotient : (realSpelling b).numeral.quotient =
        (shortestDigits b).1 * 10 ^ (shortestDigits b).2 := by
      unfold realSpelling
      rw [if_neg hzero]
      exact decimalSpelling_quotient _ (shortestDigits_ne_zero hb hzero) _
    apply ofDecimal_of_attracts hx hpos
    have hattracts := attracts_shortestDigits hb hpos
    rw [← hquotient] at hattracts
    exact hattracts

/-! ## The glyphs of a number -/

theorem mem_digits {g : Glyph} (hg : isDigit g = true) : g ∈ Text.ofString "0123456789" := by
  have hcodes : ∀ n < 58, 48 ≤ n → Glyph.ofCode n ∈ Text.ofString "0123456789" := by decide
  unfold isDigit at hg
  simp only [Bool.and_eq_true, decide_eq_true_eq] at hg
  rw [← Glyph.ofCode_code g]
  exact hcodes g.code (Nat.lt_succ_of_le hg.2) hg.1

theorem Spelling.WellFormed.subset_text {s : Spelling} (hs : s.WellFormed) :
    s.text ⊆ Text.ofString "0123456789+-.e" := by
  have hdigits {ds : Text} (h : ∀ g ∈ ds, isDigit g = true) : ds ⊆ Text.ofString "0123456789+-.e" :=
    fun g hg => List.mem_append_left (Text.ofString "+-.e") (mem_digits (h g hg))
  have hsign : (if s.negative then [Glyph.char '-'] else []) ⊆ Text.ofString "0123456789+-.e" := by
    cases s.negative <;> decide
  have hfraction : s.fractionText ⊆ Text.ofString "0123456789+-.e" := by
    unfold Spelling.fractionText
    cases hds : s.fraction with
    | none => exact List.nil_subset _
    | some ds => exact List.cons_subset.2 ⟨by decide, hdigits (hs.fraction_digits ds hds)⟩
  have hexponent : s.exponentText ⊆ Text.ofString "0123456789+-.e" := by
    unfold Spelling.exponentText
    cases he : s.exponent with
    | none => exact List.nil_subset _
    | some e =>
      refine List.cons_subset.2 ⟨by decide, List.cons_subset.2
        ⟨?_, hdigits (hs.exponent_digits e he)⟩⟩
      cases e.1 <;> decide
  exact List.append_subset.2 ⟨hsign, List.append_subset.2 ⟨hdigits hs.whole_digits,
    List.append_subset.2 ⟨hfraction, hexponent⟩⟩⟩

theorem subset_intText (n : Int) : Text.ofString (toString n) ⊆ Text.ofString "0123456789-" := by
  have hsign : (if (intSpelling n).negative then [Glyph.char '-'] else []) ⊆
      Text.ofString "0123456789-" := by
    cases (intSpelling n).negative <;> decide
  have hwhole : (intSpelling n).whole ⊆ Text.ofString "0123456789-" := fun g hg =>
    List.mem_append_left (Text.ofString "-") (mem_digits ((intSpelling_wellFormed n).whole_digits g hg))
  have hbehind : (intSpelling n).fractionText ++ (intSpelling n).exponentText = [] := rfl
  rw [← intSpelling_text n, Spelling.text, hbehind, List.append_nil]
  exact List.append_subset.2 ⟨hsign, hwhole⟩

theorem subset_realText (x : Float) :
    Text.ofString (floatText x) ⊆ Text.ofString "0123456789+-.e" ++ Text.ofString "naif" := by
  cases hx : Binary.ofFloat? x with
  | some b =>
    rw [← realSpelling_text hx]
    exact List.subset_append_of_subset_left _ (realSpelling_wellFormed (fits_of_ofFloat? hx)).subset_text
  | none =>
    unfold floatText
    rw [hx]
    dsimp only
    split
    · decide
    · split <;> decide

/-- The text of a floating point number has a point, an exponent or letters. -/
theorem exists_mark_realText (x : Float) :
    ∃ g ∈ Text.ofString (floatText x), g ∈ Text.ofString ".en" := by
  cases hx : Binary.ofFloat? x with
  | some b =>
    rw [← realSpelling_text hx]
    unfold Spelling.text
    obtain hfraction | hexponent := realSpelling_marked b
    · obtain ⟨ds, hds⟩ := Option.isSome_iff_exists.1 hfraction
      exact ⟨.char '.', by simp [Spelling.fractionText, hds], by decide⟩
    · obtain ⟨e, he⟩ := Option.isSome_iff_exists.1 hexponent
      exact ⟨.char 'e', by simp [Spelling.exponentText, he], by decide⟩
  | none =>
    refine ⟨.char 'n', ?_, by decide⟩
    unfold floatText
    rw [hx]
    dsimp only
    split
    · decide
    · split <;> decide

end QueryBench.Json
