import QueryBench.Proofs.Doc.Unmarked
import QueryBench.Proofs.Text.Lines
import QueryBench.Text.Case

/-!
# Balanced texts

A text is balanced if each closing parenthesis closes one that was opened before it, and none stays
open. Whether it is depends on its parentheses alone, so what leaves them as they are keeps a text
balanced: quoting it, writing it in upper case, cutting it into words.

Main definitions: `Text.Balanced`, `Text.parens`. Main statements: `balanced_parens`, `Balanced.append`,
`Balanced.wrap`, `Balanced.join`.
-/
set_option autoImplicit false

namespace QueryBench.Text

/-- Has no prefix more closing parentheses than opening ones, and has the whole as many? -/
def Balanced (s : Text) : Prop :=
  (∀ p, p <+: s → p.count (.char ')') ≤ p.count (.char '(')) ∧
    s.count (.char ')') = s.count (.char '(')

instance (s : Text) : Decidable (Balanced s) :=
  decidable_of_iff ((∀ p ∈ s.inits, p.count (.char ')') ≤ p.count (.char '(')) ∧
    s.count (.char ')') = s.count (.char '(')) <| by simp only [Balanced, List.mem_inits]

theorem balanced_nil : Balanced [] := by decide

theorem Balanced.append {s t : Text} (hs : Balanced s) (ht : Balanced t) : Balanced (s ++ t) := by
  refine ⟨fun p hp => ?_, ?_⟩
  · obtain ⟨q, rfl, hq⟩ | ⟨hp, -⟩ := prefix_append_cases hp
    · have hcount := hs.2
      have hprefix := ht.1 q hq
      rw [List.count_append, List.count_append]
      omega
    · exact hs.1 p hp
  · rw [List.count_append, List.count_append, hs.2, ht.2]

/-- A balanced text stays balanced between parentheses. -/
theorem Balanced.wrap {s : Text} (hs : Balanced s) : Balanced ("(" ++ s ++ ")") := by
  have hwrap : ofString "(" ++ s ++ ofString ")" = .char '(' :: (s ++ [.char ')']) := rfl
  have hcount := hs.2
  rw [hwrap]
  refine ⟨fun p hp => ?_, ?_⟩
  · obtain rfl | ⟨q, rfl, hq⟩ := List.prefix_cons_iff.1 hp
    · exact Nat.le_refl 0
    · rw [List.count_cons_of_ne (by decide), List.count_cons_self]
      obtain ⟨r, rfl, hr⟩ | ⟨hq, -⟩ := prefix_append_cases hq
      · have hclosing : r.count (Glyph.char ')') ≤ 1 := hr.sublist.count_le _
        rw [List.count_append, List.count_append]
        omega
      · exact Nat.le_succ_of_le (hs.1 q hq)
  · rw [List.count_cons_of_ne (by decide), List.count_cons_self, List.count_append, List.count_append,
      hcount]
    rfl

theorem Balanced.join {separator : Text} (hseparator : Balanced separator) {texts : List Text}
    (htexts : ∀ s ∈ texts, Balanced s) : Balanced (join separator texts) := by
  induction texts with
  | nil => exact balanced_nil
  | cons first rest ih =>
    obtain ⟨hfirst, hrest⟩ := List.forall_mem_cons.1 htexts
    cases rest with
    | nil => simpa [Text.join] using hfirst
    | cons second rest =>
      rw [Text.join, List.intercalate_cons_cons]
      exact (hfirst.append hseparator).append (ih hrest)

/-! ## The parentheses of a text -/

/-- The parentheses of a text. -/
def parens (s : Text) : Text :=
  s.filter fun g => g = .char '(' ∨ g = .char ')'

@[simp]
theorem parens_append (s t : Text) : parens (s ++ t) = parens s ++ parens t :=
  List.filter_append ..

/-- The parentheses of a text decide whether it is balanced. -/
theorem balanced_parens {s : Text} : Balanced (parens s) ↔ Balanced s := by
  have hopening (t : Text) : (parens t).count (.char '(') = t.count (.char '(') :=
    List.count_filter (by decide)
  have hclosing (t : Text) : (parens t).count (.char ')') = t.count (.char ')') :=
    List.count_filter (by decide)
  unfold Balanced
  rw [hopening, hclosing]
  refine and_congr_left fun _ => ⟨fun h p hp => ?_, fun h p hp => ?_⟩
  · rw [← hopening, ← hclosing]
    exact h (parens p) (hp.filter _)
  · obtain ⟨q, hq, rfl⟩ := List.prefix_filter_iff.1 hp
    have hprefix := h q hq
    rw [← hopening, ← hclosing] at hprefix
    exact hprefix

theorem Balanced.of_parens {s t : Text} (hs : Balanced s) (h : parens t = parens s) : Balanced t :=
  balanced_parens.1 (h ▸ balanced_parens.2 hs)

theorem balanced_of_parens {s : Text} (h : parens s = []) : Balanced s :=
  balanced_nil.of_parens h

/-- A balanced text stays balanced between an opening and a closing part. -/
theorem Balanced.between {opening s closing : Text} (hs : Balanced s)
    (hopening : parens opening = [.char '(']) (hclosing : parens closing = [.char ')']) :
    Balanced (opening ++ s ++ closing) := by
  refine hs.wrap.of_parens ?_
  rw [parens_append, parens_append, parens_append, parens_append, hopening, hclosing]
  rfl

theorem parens_of_unmarked {s : Text} (h : Unmarked s) : parens s = [] := by
  refine List.filter_eq_nil_iff.2 fun g hg hparen => ?_
  rcases of_decide_eq_true hparen with rfl | rfl <;> exact absurd (h _ hg) (by decide)

theorem parens_flatMap_eq (f : Glyph → Text) (s : Text) :
    parens (s.flatMap f) = s.flatMap fun g => parens (f g) :=
  List.filter_flatMap ..

/-- What replaces each glyph by a text with the same parentheses leaves those of a text as they are. -/
theorem parens_flatMap {f : Glyph → Text} (h : ∀ g, parens (f g) = parens [g]) (s : Text) :
    parens (s.flatMap f) = parens s := by
  induction s with
  | nil => rfl
  | cons g s ih =>
    rw [List.flatMap_cons, parens_append, h, ih, ← parens_append, List.singleton_append]

theorem parens_singleton {g : Glyph} (hopening : g ≠ .char '(') (hclosing : g ≠ .char ')') :
    parens [g] = [] := by
  simp [parens, hopening, hclosing]

theorem parens_join {separator : Text} (hseparator : parens separator = []) (texts : List Text) :
    parens (Text.join separator texts) = texts.flatMap parens := by
  induction texts with
  | nil => rfl
  | cons first rest ih =>
    cases rest with
    | nil => simp [Text.join]
    | cons second rest =>
      rw [Text.join, List.intercalate_cons_cons, parens_append, parens_append, hseparator,
        List.append_nil, List.flatMap_cons]
      exact congrArg _ ih

/-! ### Quoted texts -/

theorem parens_hexDigits (width n : Nat) : parens (hexDigits width n) = [] := by
  have hdigit : ∀ k < 16, parens [.char (Nat.digitChar k)] = [] := by decide
  have hzeros (k : Nat) : parens ((List.replicate k '0').map .char) = [] := by
    induction k with
    | zero => rfl
    | succ k ih => exact ih
  have hdigits (n : Nat) : parens ((Nat.toDigits 16 n).map .char) = [] := by
    induction n using Nat.strong_induction_on with
    | _ n ih =>
      rw [Nat.toDigits_eq_if (by decide)]
      split
      next hn => exact hdigit n hn
      next hn =>
        rw [List.map_append, parens_append, ih (n / 16) (by omega)]
        exact hdigit (n % 16) (Nat.mod_lt n (by decide))
  rw [hexDigits, List.map_append, parens_append, hzeros, hdigits]
  rfl

theorem parens_quotedGlyph (quote : Char) (g : Glyph) : parens (quotedGlyph quote g) = parens [g] := by
  unfold quotedGlyph
  split
  · exact parens_append ['\\'] [g]
  split
  next h => rw [h]; decide
  split
  next h => rw [h]; decide
  split
  next h => rw [h]; decide
  split
  next h => rw [h]; decide
  split
  · rfl
  next hprintable =>
    have hg : parens [g] = [] := by
      refine parens_singleton ?_ ?_ <;> rintro rfl <;> exact hprintable (by decide)
    rw [hg]
    split
    · exact (parens_append ['\\', 'x'] _).trans (parens_hexDigits 2 g.code)
    split
    · exact (parens_append ['\\', 'u'] _).trans (parens_hexDigits 4 g.code)
    · exact (parens_append ['\\', 'U'] _).trans (parens_hexDigits 8 g.code)

theorem parens_quoted (s : Text) : parens (quoted s) = parens s := by
  have hquote : parens [.char (quoteFor s)] = [] := by
    unfold quoteFor
    split <;> decide
  have hquoted : quoted s =
      [.char (quoteFor s)] ++ s.flatMap (quotedGlyph (quoteFor s)) ++ [.char (quoteFor s)] := rfl
  rw [hquoted, parens_append, parens_append, hquote, parens_flatMap (parens_quotedGlyph _),
    List.nil_append, List.append_nil]

/-! ### Upper case -/

theorem parens_ofCode {n : Nat} (hn : 0x29 < n) : parens [.ofCode n] = [] := by
  unfold Glyph.ofCode
  split
  · rfl
  · have hcode : (Char.ofNat n).toNat = n ∨ (Char.ofNat n).toNat = 0 := by
      unfold Char.ofNat
      by_cases hvalid : n.isValidChar
      · rw [dif_pos hvalid]
        exact .inl rfl
      · rw [dif_neg hvalid]
        exact .inr rfl
    refine parens_singleton ?_ ?_ <;> intro h <;> rw [Glyph.char.inj h] at hcode <;>
      rcases hcode with rfl | hcode
    · exact absurd hn (by decide)
    · exact absurd hcode (by decide)
    · exact absurd hn (by decide)
    · exact absurd hcode (by decide)

theorem parens_upperGlyph (g : Glyph) : parens (Case.upperGlyph g) = parens [g] := by
  cases g with
  | half n => rfl
  | char c =>
    unfold Case.upperGlyph
    dsimp only
    split
    next hc =>
      have hascii : ∀ n < 0x80,
          parens [.char (Char.ofNat n).toUpper] = parens [.char (Char.ofNat n)] := by decide
      have h := hascii c.toNat hc
      rwa [Char.ofNat_toNat] at h
    next hc =>
      have hplain : parens [.char c] = [] := by
        refine parens_singleton ?_ ?_ <;> intro h <;> cases h <;> exact hc (by decide)
      rw [hplain]
      split
      next codes hcodes =>
        have htable : ∀ e ∈ Case.upperExpansions, parens (e.2.map .ofCode) = [] := by decide +kernel
        obtain ⟨before, behind, heq, -⟩ := List.lookup_eq_some_iff.1 hcodes
        exact htable (c.toNat, codes) (by rw [heq]; simp)
      next =>
        cases hshift : Case.shiftIn Case.upperRuns c.toNat with
        | none => exact hplain
        | some n =>
          have htable : ∀ r ∈ Case.upperRuns, (0x29 : Int) < r.first + r.offset := by decide +kernel
          obtain ⟨r, hr, hn⟩ := List.exists_of_findSome?_eq_some hshift
          have hoffset := htable r hr
          unfold Case.Run.shift? at hn
          split at hn
          next hrun =>
            cases hn
            exact parens_ofCode (by omega)
          next => cases hn

theorem parens_upper (s : Text) : parens (upper s) = parens s :=
  parens_flatMap parens_upperGlyph s

/-! ### Words -/

theorem parens_blank {g : Glyph} (hg : isBlank g = true) (s : Text) : parens (g :: s) = parens s := by
  have hglyph : parens [g] = [] := by
    refine parens_singleton ?_ ?_ <;> rintro rfl <;> exact absurd hg (by decide)
  exact (parens_append [g] s).trans (congrArg (· ++ parens s) hglyph)

theorem parens_words (s : Text) : (words s).flatMap parens = parens s := by
  have hfrom (word : Text) : (wordsFrom word s).flatMap parens = parens (word.reverse ++ s) := by
    fun_induction wordsFrom word s with
    | case1 word hempty => rw [List.isEmpty_iff.1 hempty]; rfl
    | case2 word hempty => simp
    | case3 word g rest hblank hempty ih =>
      rw [ih, List.isEmpty_iff.1 hempty]
      exact (parens_blank hblank rest).symm
    | case4 word g rest hblank hempty ih =>
      rw [List.flatMap_cons, ih, parens_append word.reverse, parens_blank hblank]
      rfl
    | case5 word g rest hblank ih =>
      rw [ih, List.reverse_cons, List.append_assoc, List.singleton_append]
  exact hfrom []

theorem parens_replaceChar {c : Char} (hc : parens [.char c] = []) (s : Text) :
    parens (replaceChar c [] s) = parens s := by
  refine parens_flatMap (fun g => ?_) s
  split
  next h => rw [h, hc]; rfl
  next => rfl

end QueryBench.Text
