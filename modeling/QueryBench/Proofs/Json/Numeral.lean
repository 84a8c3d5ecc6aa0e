import Mathlib.Algebra.Order.Field.Rat
import Mathlib.Tactic.Ring
import QueryBench.Json.Reader
import QueryBench.Json.Writer
import QueryBench.Proofs.Number.Shortest

/-!
# Numbers in written documents

A number is written as a spelling: a sign, digits before the point, digits behind it and an
exponent. The reader takes the longest spelling at a place, so a spelling is read back where nothing
follows that could continue it.

Main definitions: `Spelling`, `Spelling.text`. Main statements: `readNumeral_text`,
`nearestValue_int` and `nearestValue_real`, which read back the numbers that are written.
-/
set_option autoImplicit false

namespace QueryBench.Json

/-! ## Digits -/

theorem isDigit_char (c : Char) : isDigit (.char c) = c.isDigit := rfl

theorem digitsValue_map (cs : List Char) : digitsValue (cs.map .char) = Nat.ofDigitChars 10 cs 0 := by
  rw [digitsValue, List.foldl_map, Nat.ofDigitChars_eq_foldl]
  rfl

/-- Does a text not go on with a digit? -/
def NoDigit (s : Text) : Prop := ∀ g ∈ s.head?, isDigit g = false

theorem takeWhile_digits {ds tail : Text} (hds : ∀ g ∈ ds, isDigit g = true) (htail : NoDigit tail) :
    (ds ++ tail).takeWhile isDigit = ds := by
  rw [List.takeWhile_append_of_pos hds]
  cases tail with
  | nil => simp
  | cons g rest =>
    have hg : isDigit g = false := htail g rfl
    simp [hg]

theorem takeDigits_append {ds tail : Text} (hds : ∀ g ∈ ds, isDigit g = true)
    (htail : NoDigit tail) (p : Nat) :
    takeDigits ⟨p, ds ++ tail⟩ = (ds, ⟨p + ds.length, tail⟩) := by
  simp [takeDigits, takeWhile_digits hds htail, Cursor.advance]

/-! ## Spellings -/

/-- The parts of a written number. An exponent always has a sign. -/
structure Spelling where
  negative : Bool
  whole : Text
  fraction : Option Text
  exponent : Option (Bool × Text)

namespace Spelling

/-- The part behind the point, if there is one. -/
def fractionText (s : Spelling) : Text :=
  match s.fraction with
  | none => []
  | some ds => .char '.' :: ds

/-- The exponent, if there is one. -/
def exponentText (s : Spelling) : Text :=
  match s.exponent with
  | none => []
  | some (negative, ds) => .char 'e' :: .char (if negative then '-' else '+') :: ds

/-- A spelled number as it is written: sign, digits, fraction, exponent. -/
def text (s : Spelling) : Text :=
  (if s.negative then [Glyph.char '-'] else []) ++ (s.whole ++ (s.fractionText ++ s.exponentText))

/-- The number as the reader takes it. -/
def numeral (s : Spelling) : Numeral where
  negative := s.negative
  whole := s.whole
  fraction := s.fraction
  exponent := s.exponent.map fun e => if e.1 then -(digitsValue e.2 : Int) else digitsValue e.2

/-- A part that is there has digits, and a zero before the point stands alone. -/
structure WellFormed (s : Spelling) : Prop where
  whole_ne : s.whole ≠ []
  whole_digits : ∀ g ∈ s.whole, isDigit g = true
  leading : s.whole.head? = some (.char '0') → s.whole = [.char '0']
  fraction_ne : s.fraction ≠ some []
  fraction_digits : ∀ ds ∈ s.fraction, ∀ g ∈ ds, isDigit g = true
  exponent_ne : ∀ e ∈ s.exponent, e.2 ≠ []
  exponent_digits : ∀ e ∈ s.exponent, ∀ g ∈ e.2, isDigit g = true

end Spelling

/-- Can a text not continue a number? -/
def EndsNumber (s : Text) : Prop :=
  ∀ g ∈ s.head?, isDigit g = false ∧ g ≠ '.' ∧ g ≠ 'e' ∧ g ≠ 'E'

theorem EndsNumber.noDigit {s : Text} (h : EndsNumber s) : NoDigit s := fun g hg => (h g hg).1

theorem takeFraction_eq_none {s : Text} (h : s.head? ≠ some (.char '.')) (p : Nat) :
    takeFraction ⟨p, s⟩ = none := by
  unfold takeFraction
  split
  next heq =>
    simp only at heq
    simp [heq] at h
  next => rfl

theorem takeExponent_eq_none {s : Text} (h : s.head? ≠ some (.char 'e'))
    (h' : s.head? ≠ some (.char 'E')) (p : Nat) : takeExponent ⟨p, s⟩ = none := by
  unfold takeExponent
  cases s with
  | nil => rfl
  | cons g rest =>
    have hg : g ≠ .char 'e' := fun heq => h (by rw [heq]; rfl)
    have hg' : g ≠ .char 'E' := fun heq => h' (by rw [heq]; rfl)
    simp [hg, hg']

theorem EndsNumber.head_ne {s : Text} (h : EndsNumber s) :
    s.head? ≠ some (.char '.') ∧ s.head? ≠ some (.char 'e') ∧ s.head? ≠ some (.char 'E') := by
  refine ⟨?_, ?_, ?_⟩ <;> intro heq
  · exact (h _ heq).2.1 rfl
  · exact (h _ heq).2.2.1 rfl
  · exact (h _ heq).2.2.2 rfl

/-- What follows the digits of a spelling is a mark or the text behind it. -/
theorem exponentText_head {s : Spelling} {tail : Text} (htail : EndsNumber tail) :
    (s.exponentText ++ tail).head? ≠ some (.char '.') ∧ NoDigit (s.exponentText ++ tail) := by
  unfold Spelling.exponentText
  split
  · exact ⟨htail.head_ne.1, htail.noDigit⟩
  · refine ⟨by simp, ?_⟩
    intro g hg
    obtain rfl : g = .char 'e' := by simpa using hg.symm
    decide

theorem takeFraction_text {s : Spelling} (hs : s.WellFormed) {tail : Text} (htail : EndsNumber tail)
    (p : Nat) :
    takeFraction ⟨p, s.fractionText ++ (s.exponentText ++ tail)⟩ =
      s.fraction.map fun ds => (ds, ⟨p + s.fractionText.length, s.exponentText ++ tail⟩) := by
  obtain ⟨hhead, hdigit⟩ := @exponentText_head s tail htail
  unfold Spelling.fractionText
  cases hf : s.fraction with
  | none => exact takeFraction_eq_none hhead p
  | some ds =>
    have hne := hs.fraction_ne
    have hds := hs.fraction_digits ds hf
    rw [hf] at hne
    cases ds with
    | nil => exact absurd rfl hne
    | cons d ds =>
      have hd : isDigit d = true := hds d List.mem_cons_self
      have htake := takeDigits_append hds hdigit (p + 1)
      simp only [takeFraction, Cursor.advance, List.cons_append, hd, if_true, List.drop_one,
        List.tail_cons, Option.map_some]
      rw [← List.cons_append, htake]
      simp only [List.length_cons, Option.some.injEq, Prod.mk.injEq, Cursor.mk.injEq, and_true,
        true_and]
      omega

theorem takeExponent_text {s : Spelling} (hs : s.WellFormed) {tail : Text} (htail : EndsNumber tail)
    (p : Nat) :
    takeExponent ⟨p, s.exponentText ++ tail⟩ =
      s.numeral.exponent.map fun n => (n, ⟨p + s.exponentText.length, tail⟩) := by
  unfold Spelling.exponentText Spelling.numeral
  cases he : s.exponent with
  | none => exact takeExponent_eq_none htail.head_ne.2.1 htail.head_ne.2.2 p
  | some e =>
    obtain ⟨negative, ds⟩ := e
    have hne := hs.exponent_ne _ he
    have htake := takeDigits_append (hs.exponent_digits _ he) htail.noDigit (p + 2)
    have hempty : ds.isEmpty = false := by simpa using hne
    cases negative with
    | true =>
      simp [takeExponent, Cursor.advance, htake, hempty]
      omega
    | false =>
      simp [takeExponent, Cursor.advance, htake, hempty]
      omega

theorem text_sign {s : Spelling} (hs : s.WellFormed) (tail : Text) :
    (s.text ++ tail).head? = some (.char '-') ↔ s.negative = true := by
  obtain ⟨d, ds, hwhole⟩ := List.exists_cons_of_ne_nil hs.whole_ne
  have hd : isDigit d = true := hs.whole_digits d (by rw [hwhole]; exact List.mem_cons_self)
  unfold Spelling.text
  cases hn : s.negative with
  | true => simp
  | false =>
    have hne : d ≠ .char '-' := by
      rintro rfl
      exact absurd hd (by decide)
    simp [hwhole, hne]

/-- The digits before the point: a zero, or all there are. -/
theorem takeWhole_text {s : Spelling} (hs : s.WellFormed) {tail : Text} (htail : NoDigit tail)
    (p : Nat) :
    (if (s.whole ++ tail).head? = some (.char '0') then
        ([Glyph.char '0'], Cursor.advance ⟨p, s.whole ++ tail⟩ 1)
      else takeDigits ⟨p, s.whole ++ tail⟩) = (s.whole, ⟨p + s.whole.length, tail⟩) := by
  have hhead : (s.whole ++ tail).head? = s.whole.head? := by
    obtain ⟨d, ds, hwhole⟩ := List.exists_cons_of_ne_nil hs.whole_ne
    simp [hwhole]
  rw [hhead]
  split
  next hzero => simp [hs.leading hzero, Cursor.advance]
  next => exact takeDigits_append hs.whole_digits htail p

theorem noDigit_fractionText {s : Spelling} {tail : Text} (htail : EndsNumber tail) :
    NoDigit (s.fractionText ++ (s.exponentText ++ tail)) := by
  unfold Spelling.fractionText
  split
  · exact (exponentText_head htail).2
  · intro g hg
    obtain rfl : g = .char '.' := by simpa using hg.symm
    decide

theorem unsigned_text {s : Spelling} (tail : Text) (p : Nat) :
    (if s.negative then Cursor.advance ⟨p, s.text ++ tail⟩ 1 else ⟨p, s.text ++ tail⟩) =
      ⟨p + (if s.negative then 1 else 0),
        s.whole ++ (s.fractionText ++ (s.exponentText ++ tail))⟩ := by
  unfold Spelling.text Cursor.advance
  cases s.negative <;> simp

theorem length_text (s : Spelling) :
    s.text.length = (if s.negative then 1 else 0) + s.whole.length + s.fractionText.length +
      s.exponentText.length := by
  unfold Spelling.text
  cases s.negative <;> simp <;> omega

/-- The steps of reading a number, one after the other. -/
theorem readNumeral_eq {c unsigned next : Cursor} {negative : Bool} {whole : Text}
    (hsign : c.rest.head? = some (.char '-') ↔ negative = true)
    (hunsigned : (if negative then c.advance 1 else c) = unsigned)
    (hwhole : (if unsigned.rest.head? = some (.char '0') then
        ([Glyph.char '0'], unsigned.advance 1) else takeDigits unsigned) = (whole, next)) :
    readNumeral c =
      if whole.isEmpty then c.fail .value
      else
        let behind := ((takeFraction next).map Prod.snd).getD next
        .ok (⟨negative, whole, (takeFraction next).map Prod.fst,
            (takeExponent behind).map Prod.fst⟩,
          ((takeExponent behind).map Prod.snd).getD behind) := by
  have hnegative : decide (c.rest.head? = some (.char '-')) = negative := by
    rw [Bool.eq_iff_iff, decide_eq_true_iff]
    exact hsign
  subst hunsigned
  unfold readNumeral
  dsimp only
  rw [← hnegative] at hwhole ⊢
  simp only [decide_eq_true_eq] at hwhole ⊢
  rw [hwhole]

theorem behind_fraction (s : Spelling) (p : Nat) (after : Text) :
    ((s.fraction.map fun ds => (ds, (⟨p + s.fractionText.length, after⟩ : Cursor))).map
      Prod.snd).getD ⟨p, s.fractionText ++ after⟩ = ⟨p + s.fractionText.length, after⟩ := by
  unfold Spelling.fractionText
  cases s.fraction <;> simp

theorem behind_exponent (s : Spelling) (p : Nat) (tail : Text) :
    ((s.numeral.exponent.map fun n => (n, (⟨p + s.exponentText.length, tail⟩ : Cursor))).map
      Prod.snd).getD ⟨p, s.exponentText ++ tail⟩ = ⟨p + s.exponentText.length, tail⟩ := by
  unfold Spelling.exponentText Spelling.numeral
  cases s.exponent <;> simp

/-- A spelling is read as it is written. -/
theorem readNumeral_text {s : Spelling} (hs : s.WellFormed) {tail : Text} (htail : EndsNumber tail)
    (p : Nat) :
    readNumeral ⟨p, s.text ++ tail⟩ = .ok (s.numeral, ⟨p + s.text.length, tail⟩) := by
  have hwhole : s.whole.isEmpty = false := by simpa using hs.whole_ne
  rw [readNumeral_eq (text_sign hs tail) (unsigned_text tail p)
    (takeWhole_text hs (noDigit_fractionText htail) _), hwhole, takeFraction_text hs htail]
  dsimp only
  rw [behind_fraction, takeExponent_text hs htail, behind_exponent, length_text]
  simp [Spelling.numeral, Function.comp_def, Nat.add_assoc]

/-! ## Whole numbers -/

theorem ofString_append (a b : String) : Text.ofString (a ++ b) = Text.ofString a ++ Text.ofString b := by
  simp [Text.ofString]

theorem ofString_ofList (cs : List Char) : Text.ofString (String.ofList cs) = cs.map .char := by
  simp [Text.ofString]

theorem isDigit_of_mem_toDigits {n : Nat} {g : Glyph} (hg : g ∈ (Nat.toDigits 10 n).map Glyph.char) :
    isDigit g = true := by
  obtain ⟨c, hc, rfl⟩ := List.mem_map.1 hg
  exact Nat.isDigit_of_mem_toDigits (by norm_num) (by norm_num) hc

theorem toDigits_head {n : Nat} (hn : n ≠ 0) : (Nat.toDigits 10 n).head? ≠ some '0' := by
  induction n using Nat.strongRecOn with
  | ind n ih =>
    rw [Nat.toDigits_eq_if (by norm_num)]
    split
    next hlt =>
      have : ∀ n, n < 10 → n ≠ 0 → Nat.digitChar n ≠ '0' := by decide
      simpa using this n hlt hn
    next hge =>
      have hne : Nat.toDigits 10 (n / 10) ≠ [] := Nat.toDigits_ne_nil
      rw [List.head?_append_of_ne_nil _ hne]
      exact ih (n / 10) (by omega) (by omega)

/-- How a whole number is written. -/
def intSpelling (n : Int) : Spelling where
  negative := n < 0
  whole := (Nat.toDigits 10 n.natAbs).map .char
  fraction := none
  exponent := none

theorem intSpelling_wellFormed (n : Int) : (intSpelling n).WellFormed where
  whole_ne := by simp [intSpelling, Nat.toDigits_ne_nil]
  whole_digits g hg := isDigit_of_mem_toDigits hg
  leading := by
    intro hzero
    have hn : n.natAbs = 0 := by
      by_contra hne
      apply toDigits_head hne
      simpa [intSpelling] using hzero
    simp [intSpelling, hn]
  fraction_ne := by simp [intSpelling]
  fraction_digits := by simp [intSpelling]
  exponent_ne := by simp [intSpelling]
  exponent_digits := by simp [intSpelling]

theorem intSpelling_text (n : Int) : (intSpelling n).text = Text.ofString (toString n) := by
  have hdigits : ∀ m : Nat, (Nat.toDigits 10 m).map Glyph.char = Text.ofString (toString m) := by
    intro m
    rw [Nat.toString_eq_ofList_toDigits, ofString_ofList]
  unfold intSpelling Spelling.text Spelling.fractionText Spelling.exponentText
  simp only [hdigits, List.append_nil, decide_eq_true_eq]
  cases n with
  | ofNat m =>
    rw [if_neg (by simp)]
    rfl
  | negSucc m =>
    rw [if_pos (Int.negSucc_lt_zero m)]
    show _ = Text.ofString ("-" ++ toString (m + 1))
    rw [ofString_append]
    rfl

theorem intSpelling_whole_le {n : Int} (hn : n.natAbs < 10 ^ Number.numeralLimit) :
    (intSpelling n).whole.length ≤ Number.numeralLimit := by
  unfold intSpelling
  rw [List.length_map]
  exact (Nat.length_toDigits_le_iff (by norm_num) (by decide)).2 hn

/-- A whole number that is short enough is read exactly. -/
theorem nearestValue_int {n : Int} (hn : n.natAbs < 10 ^ Number.numeralLimit) :
    nearestValue (intSpelling n).numeral = .ok (.int n) := by
  have hlength := not_lt.2 (intSpelling_whole_le hn)
  unfold intSpelling at hlength
  unfold nearestValue intSpelling Spelling.numeral
  simp only [Option.map_none]
  rw [if_neg hlength, digitsValue_map, Nat.ofDigitChars_ten_toDigits]
  simp only [decide_eq_true_eq]
  congr 2
  split <;> omega

end QueryBench.Json
