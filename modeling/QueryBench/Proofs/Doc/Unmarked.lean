import QueryBench.Doc.Access
import QueryBench.Proofs.Json.Decimal

/-!
# Texts without parentheses and quotes

Parentheses and quotes give a statement its shape. The text of a number has none of them, and so has
every text that stands for a whole number.

Main definition: `Text.Unmarked`. Main statement: `Doc.unmarked_of_toInt`.
-/
set_option autoImplicit false

namespace QueryBench

namespace Text

/-- Is the glyph a parenthesis or a quote? -/
def isMark (g : Glyph) : Bool :=
  g ∈ [Glyph.char '(', Glyph.char ')', Glyph.char '\'', Glyph.char '"']

/-- Has the text neither parentheses nor quotes? -/
def Unmarked (s : Text) : Prop :=
  ∀ g ∈ s, isMark g = false

instance (s : Text) : Decidable (Unmarked s) :=
  inferInstanceAs (Decidable (∀ g ∈ s, isMark g = false))

theorem unmarked_nil : Unmarked [] := nofun

theorem unmarked_cons {g : Glyph} {s : Text} : Unmarked (g :: s) ↔ isMark g = false ∧ Unmarked s :=
  List.forall_mem_cons

theorem unmarked_append {s t : Text} : Unmarked (s ++ t) ↔ Unmarked s ∧ Unmarked t :=
  List.forall_mem_append

theorem unmarked_of_subset {s t : Text} (h : s ⊆ t) (ht : Unmarked t) : Unmarked s :=
  fun g hg => ht g (h hg)

theorem not_isMark_of {p : Glyph → Bool}
    (hp : ∀ mark ∈ [Glyph.char '(', Glyph.char ')', Glyph.char '\'', Glyph.char '"'], p mark = false)
    {g : Glyph} (hg : p g = true) : isMark g = false :=
  decide_eq_false fun hmark => Bool.false_ne_true ((hp g hmark).symm.trans hg)

end Text

/-! ## Numbers -/

namespace Json

theorem unmarked_int (n : Int) : Text.Unmarked (Text.ofString (toString n)) :=
  Text.unmarked_of_subset (subset_intText n) (by decide)

theorem unmarked_real (x : Float) : Text.Unmarked (Text.ofString (Number.floatText x)) :=
  Text.unmarked_of_subset (subset_realText x) (by decide)

end Json

/-! ## Numerals -/

namespace Number

theorem mem_trimMargins {s : Text} {g : Glyph} (hg : g ∈ s) :
    isMargin g = true ∨ g ∈ trimMargins s := by
  have hdrop {p : Glyph → Bool} {t : Text} (hg : g ∈ t) : p g = true ∨ g ∈ t.dropWhile p := by
    rw [← List.takeWhile_append_dropWhile (p := p) (l := t), List.mem_append] at hg
    exact hg.imp_left fun hg => List.mem_takeWhile_imp hg
  rcases hdrop (p := isMargin) hg with hmargin | hg
  · exact .inl hmargin
  · refine (hdrop (p := isMargin) (List.mem_reverse.2 hg)).imp_right fun hg => ?_
    exact List.mem_reverse.2 hg

theorem unmarked_digitsAt {start : Bool} {s rest : Text} {ds : List Nat}
    (h : digitsAt start s = some (ds, rest)) (hrest : Text.Unmarked rest) : Text.Unmarked s := by
  have hunderscore : Text.isMark (.char '_') = false := by decide
  induction s generalizing start ds with
  | nil => exact Text.unmarked_nil
  | cons g s ih =>
    rw [digitsAt] at h
    split at h
    next hg =>
      split at h
      · cases h
      · exact Text.unmarked_cons.2 ⟨hg ▸ hunderscore, ih h⟩
    next =>
      split at h
      next d hd =>
        obtain ⟨r, hr, heq⟩ := Option.map_eq_some_iff.1 h
        cases heq
        refine Text.unmarked_cons.2 ⟨?_, ih hr⟩
        exact Text.not_isMark_of (p := fun g => (Text.digitValue? g).isSome) (by decide)
          (Option.isSome_iff_exists.2 ⟨d, hd⟩)
      next =>
        split at h
        · cases h
        · cases h
          exact hrest

theorem unmarked_of_readInt {s : Text} {n : Int} (h : readInt s = .ok n) : Text.Unmarked s := by
  have hbody : Text.Unmarked (splitSign (trimMargins s)).2 := by
    unfold readInt at h
    dsimp only at h
    split at h
    · cases h
    next ds rest hds =>
      split at h
      · cases h
      split at h
      next hempty =>
        rw [List.isEmpty_iff.1 hempty] at hds
        exact unmarked_digitsAt hds Text.unmarked_nil
      next => cases h
  have htrim : Text.Unmarked (trimMargins s) := by
    generalize trimMargins s = t at hbody
    revert hbody
    fun_cases splitSign t with
    | case1 => exact fun hbody => Text.unmarked_cons.2 ⟨by decide, hbody⟩
    | case2 => exact fun hbody => Text.unmarked_cons.2 ⟨by decide, hbody⟩
    | case3 => exact id
  intro g hg
  rcases mem_trimMargins hg with hmargin | hg
  · exact Text.not_isMark_of (by decide) hmargin
  · exact htrim g hg

end Number

/-- What stands for a whole number has neither parentheses nor quotes in its text. -/
theorem Doc.unmarked_of_toInt {d : Doc} {n : Int} (h : d.toInt = .ok n) : Text.Unmarked d.display := by
  cases d with
  | bool b => cases b <;> decide
  | int m => exact Json.unmarked_int m
  | real x => exact Json.unmarked_real x
  | text s =>
    rw [toInt] at h
    cases hread : Number.readInt s with
    | ok m => exact Number.unmarked_of_readInt hread
    | error e =>
      rw [hread] at h
      cases e <;> cases h
  | _ => cases h

end QueryBench
