import Mathlib.Tactic.IntervalCases
import QueryBench.Proofs.Json.RoundTrip

/-!
# Lines that are cut off

What is left of a record or a list on one line that was cut off is not read: the failure lies in the
form of the text and never in a limit. A number that was cut off may be read as another number, but
what stands behind it then cannot go on with the list or the record around it.

Main statement: `read_torn`.
-/
set_option autoImplicit false

namespace QueryBench.Json

/-! ## Numbers -/

theorem takeDigits_spec (c : Cursor) :
    (takeDigits c).1 <+: c.rest ∧ (∀ g ∈ (takeDigits c).1, isDigit g = true) ∧
      (takeDigits c).2.rest <:+ c.rest := by
  unfold takeDigits Cursor.advance
  exact ⟨List.takeWhile_prefix _, fun g hg => List.mem_takeWhile_imp hg, List.drop_suffix _ _⟩

theorem takeFraction_suffix {c next : Cursor} {ds : Text} (h : takeFraction c = some (ds, next)) :
    next.rest <:+ c.rest := by
  unfold takeFraction at h
  split at h
  next heq =>
    split at h
    · have hdigits := (takeDigits_spec (c.advance 1)).2.2
      rw [Option.some.inj h] at hdigits
      exact hdigits.trans (List.drop_suffix _ _)
    · cases h
  next => cases h

theorem takeExponent_suffix {c next : Cursor} {n : Int} (h : takeExponent c = some (n, next)) :
    next.rest <:+ c.rest := by
  have hdigits : ∀ (k : Nat) (m : Int),
      (if (takeDigits (c.advance k)).1.isEmpty then none
        else some (m, (takeDigits (c.advance k)).2)) = some (n, next) → next.rest <:+ c.rest := by
    intro k m h
    split at h
    · cases h
    · cases h
      exact (takeDigits_spec _).2.2.trans (List.drop_suffix _ _)
  unfold takeExponent at h
  split at h
  next rest _ =>
    split at h
    · exact hdigits _ _ h
    · cases h
  next => cases h

/-- The text behind the sign of a number. -/
def unsignedText (s : Text) : Text :=
  if s.head? = some (.char '-') then s.drop 1 else s

theorem takeWhole_spec (c : Cursor) :
    ∃ whole next, (if c.rest.head? = some (.char '0') then ([Glyph.char '0'], c.advance 1)
        else takeDigits c) = (whole, next) ∧
      whole <+: c.rest ∧ (∀ g ∈ whole, isDigit g = true) ∧ next.rest <:+ c.rest := by
  split
  next hzero =>
    obtain ⟨rest, hrest⟩ := List.head?_eq_some_iff.1 hzero
    refine ⟨_, _, rfl, ?_, ?_, List.drop_suffix _ _⟩
    · rw [hrest]
      exact ⟨rest, rfl⟩
    · intro g hg
      rw [List.mem_singleton.1 hg]
      decide
  next => exact ⟨_, _, rfl, takeDigits_spec c⟩

/-- A number is not read, or it begins with digits and something of the text is left. -/
theorem readNumeral_cases (p : Nat) (s : Text) :
    Misformed (readNumeral ⟨p, s⟩) ∨
      ∃ n next, readNumeral ⟨p, s⟩ = .ok (n, next) ∧ next.rest <:+ s ∧
        n.whole <+: unsignedText s ∧ ∀ g ∈ n.whole, isDigit g = true := by
  obtain ⟨q, hunsigned⟩ : ∃ q, (if decide (s.head? = some (.char '-')) then
      Cursor.advance ⟨p, s⟩ 1 else ⟨p, s⟩) = ⟨q, unsignedText s⟩ := by
    unfold unsignedText Cursor.advance
    by_cases h : s.head? = some (.char '-')
    · exact ⟨p + 1, by simp [h]⟩
    · exact ⟨p, by simp [h]⟩
  have hsuffix : unsignedText s <:+ s := by
    unfold unsignedText
    split
    · exact List.drop_suffix _ _
    · exact List.suffix_refl s
  obtain ⟨whole, next, hwhole, hprefix, hdigits, hnext⟩ := takeWhole_spec ⟨q, unsignedText s⟩
  rw [readNumeral_eq (by simp) hunsigned hwhole]
  cases whole.isEmpty with
  | true => exact .inl ⟨_, _, rfl⟩
  | false =>
    refine .inr ⟨_, _, rfl, ?_, hprefix, hdigits⟩
    have hbehind : (((takeFraction next).map Prod.snd).getD next).rest <:+ next.rest := by
      cases hf : takeFraction next with
      | none => exact List.suffix_refl _
      | some r => exact takeFraction_suffix hf
    have hfinal : ∀ c : Cursor, (((takeExponent c).map Prod.snd).getD c).rest <:+ c.rest := by
      intro c
      cases he : takeExponent c with
      | none => exact List.suffix_refl _
      | some r => exact takeExponent_suffix he
    exact (hfinal _).trans (hbehind.trans (hnext.trans hsuffix))

/-- Can the glyph be part of a number? -/
def inNumeral (g : Glyph) : Bool :=
  isDigit g || g = '-' || g = '+' || g = '.' || g = 'e'

theorem inNumeral_of_isDigit {g : Glyph} (hg : isDigit g = true) : inNumeral g = true := by
  simp [inNumeral, hg]

theorem inNumeral_of_mem_text {s : Spelling} (hs : s.WellFormed) {g : Glyph} (hg : g ∈ s.text) :
    inNumeral g = true := by
  simp only [Spelling.text, List.mem_append] at hg
  rcases hg with hsign | hwhole | hfraction | hexponent
  · cases hn : s.negative with
    | false => simp [hn] at hsign
    | true =>
      obtain rfl : g = .char '-' := by simpa [hn] using hsign
      decide
  · exact inNumeral_of_isDigit (hs.whole_digits g hwhole)
  · cases hf : s.fraction with
    | none => simp [Spelling.fractionText, hf] at hfraction
    | some ds =>
      simp only [Spelling.fractionText, hf, List.mem_cons] at hfraction
      rcases hfraction with rfl | hmem
      · decide
      · exact inNumeral_of_isDigit (hs.fraction_digits ds hf g hmem)
  · cases he : s.exponent with
    | none => simp [Spelling.exponentText, he] at hexponent
    | some e =>
      obtain ⟨negative, ds⟩ := e
      simp only [Spelling.exponentText, he, List.mem_cons] at hexponent
      rcases hexponent with rfl | rfl | hmem
      · decide
      · cases negative <;> decide
      · exact inNumeral_of_isDigit (hs.exponent_digits _ he g hmem)

end QueryBench.Json
