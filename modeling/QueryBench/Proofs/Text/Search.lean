import Mathlib.Data.List.DropRight
import QueryBench.Proofs.Text.Lines
import QueryBench.Text.Search

/-!
# Texts inside others

Trimming takes blanks off both ends and nothing else. A text occurs in another one if it is a part of
it, and what stands before its first occurrence is without it.

Main statements: `trim_eq_self_iff`, `trim_trim`, `contains_iff`, `not_infix_before`, `cut?_append`.
-/
set_option autoImplicit false

namespace QueryBench.Text

/-! ## Blanks around a text -/

theorem dropEndWhile_eq (p : Glyph → Bool) (s : Text) : dropEndWhile p s = s.rdropWhile p := rfl

theorem isInfix_trim (s : Text) : trim s <:+: s := by
  have hend := dropEndWhile_prefix isBlank (s.dropWhile isBlank)
  exact hend.isInfix.trans (List.dropWhile_suffix isBlank).isInfix

/-- Trimming keeps the texts that neither begin nor end with a blank. -/
theorem trim_eq_self_iff {s : Text} :
    trim s = s ↔ (∀ g ∈ s.head?, isBlank g = false) ∧ ∀ g ∈ s.getLast?, isBlank g = false := by
  have hlast : dropEndWhile isBlank s = s ↔ ∀ g ∈ s.getLast?, isBlank g = false := by
    rw [dropEndWhile_eq, List.rdropWhile_eq_self_iff]
    cases s using List.reverseRecOn with
    | nil => simp
    | append_singleton s g => simp
  cases s with
  | nil => simp [trim, dropEndWhile]
  | cons g s =>
    rw [← hlast]
    cases hg : isBlank g with
    | true =>
      -- A blank at the beginning is dropped, and nothing is put in its place.
      have hlength : (trim (g :: s)).length ≤ s.length := by
        rw [trim, List.dropWhile_cons_of_pos hg]
        exact (isInfix_trim s).length_le
      have hne : trim (g :: s) ≠ g :: s := by
        intro h
        rw [h, List.length_cons] at hlength
        omega
      simp [hne, hg]
    | false => simp [trim_cons hg, hg]

theorem trim_trim (s : Text) : trim (trim s) = trim s := by
  rw [trim_eq_self_iff]
  constructor
  · intro g hg
    obtain ⟨rest, hrest⟩ := List.head?_eq_some_iff.1 hg
    obtain ⟨behind, hbehind⟩ : g :: rest <+: s.dropWhile isBlank :=
      hrest ▸ dropEndWhile_prefix isBlank (s.dropWhile isBlank)
    have hfirst := List.head?_dropWhile_not isBlank s
    rw [← hbehind] at hfirst
    simpa using hfirst
  · intro g hg
    rw [trim, dropEndWhile_eq] at hg
    obtain ⟨hne, rfl⟩ := List.mem_getLast?_eq_getLast hg
    simpa using List.rdropWhile_last_not isBlank _ hne

/-! ## First occurrences -/

theorem contains_iff {needle s : Text} : contains needle s = true ↔ needle <:+: s := by
  unfold contains
  induction s with
  | nil => simp [cut?]
  | cons g s ih =>
    rw [cut?, List.infix_cons_iff, ← ih, ← List.isPrefixOf_iff_prefix]
    split
    next h => simp [h]
    next h => simp [h]

theorem eq_of_cut? {needle s head tail : Text} (h : cut? needle s = some (head, tail)) :
    s = head ++ needle ++ tail := by
  induction s generalizing head with
  | nil =>
    rw [cut?] at h
    split at h
    next hempty =>
      cases h
      simpa using hempty
    next => cases h
  | cons g s ih =>
    rw [cut?] at h
    split at h
    next hprefix =>
      cases h
      exact (List.prefix_iff_eq_append.1 (List.isPrefixOf_iff_prefix.1 hprefix)).symm
    next =>
      obtain ⟨⟨inner, tail'⟩, hinner, hcut⟩ := Option.map_eq_some_iff.1 h
      cases hcut
      rw [ih hinner]
      rfl

/-- What stands before the first occurrence of a text has no occurrence in it. -/
theorem not_infix_of_cut? {needle s head tail : Text} (hne : needle ≠ [])
    (h : cut? needle s = some (head, tail)) : ¬ needle <:+: head := by
  induction s generalizing head with
  | nil =>
    rw [cut?, if_neg (by simpa using hne)] at h
    cases h
  | cons g s ih =>
    rw [cut?] at h
    split at h
    next =>
      cases h
      simpa using hne
    next hprefix =>
      obtain ⟨⟨inner, tail'⟩, hinner, hcut⟩ := Option.map_eq_some_iff.1 h
      cases hcut
      rw [List.infix_cons_iff]
      rintro (hstart | hlater)
      · have hs : g :: inner <+: g :: s := by
          rw [eq_of_cut? hinner, List.append_assoc]
          exact List.prefix_append (g :: inner) _
        exact hprefix (List.isPrefixOf_iff_prefix.2 (hstart.trans hs))
      · exact ih hinner hlater

theorem before_of_not_contains {needle s : Text} (h : contains needle s = false) :
    before needle s = s := by
  unfold contains at h
  unfold before
  rw [Option.isSome_eq_false_iff, Option.isNone_iff_eq_none] at h
  rw [h]

theorem isInfix_before (needle s : Text) : before needle s <:+: s := by
  cases h : cut? needle s with
  | none => rw [before, h]
  | some parts =>
    rw [before, h, eq_of_cut? h, List.append_assoc]
    exact (List.prefix_append parts.1 _).isInfix

theorem not_infix_before {needle : Text} (hne : needle ≠ []) (s : Text) :
    ¬ needle <:+: before needle s := by
  cases h : cut? needle s with
  | none =>
    rw [before, h, ← contains_iff, contains, h]
    decide
  | some parts =>
    rw [before, h]
    exact not_infix_of_cut? hne h

/-- A text is first found behind glyphs that differ from its own first glyph. -/
theorem cut?_append {g : Glyph} {s : Text} (hs : g ∉ s) (needle rest : Text) :
    cut? (g :: needle) (s ++ (g :: needle ++ rest)) = some (s, rest) := by
  induction s with
  | nil =>
    have hprefix : g :: needle <+: g :: needle ++ rest := List.prefix_append _ _
    rw [List.nil_append, List.cons_append, cut?, ← List.cons_append,
      if_pos (List.isPrefixOf_iff_prefix.2 hprefix), List.drop_left]
  | cons h s ih =>
    rw [List.mem_cons, not_or] at hs
    have hother : ¬ g :: needle <+: h :: (s ++ (g :: needle ++ rest)) :=
      fun hprefix => hs.1 (List.cons_prefix_cons.1 hprefix).1
    rw [List.cons_append, cut?, if_neg (by rwa [List.isPrefixOf_iff_prefix]), ih hs.2]
    rfl

theorem replaceChar_of_not_mem {c : Char} {s : Text} (hs : .char c ∉ s) (new : Text) :
    replaceChar c new s = s := by
  unfold replaceChar
  induction s with
  | nil => rfl
  | cons g s ih =>
    rw [List.mem_cons, not_or] at hs
    rw [List.flatMap_cons, if_neg (Ne.symm hs.1), ih hs.2, List.singleton_append]

end QueryBench.Text
