import Mathlib.Data.List.Infix
import QueryBench.Text.Blank
import QueryBench.Text.Line

/-!
# Lines of a text

A text is cut behind each line feed, so lines that end in one can be put behind each other and are
found again.

Main statements: `prefix_append_cases`, `lines_line`, `lines_flatten`, `unifyNewlines_newline`,
`trim_prefix`.
-/
set_option autoImplicit false

namespace QueryBench

/-- What two parts one behind the other begin with goes on in the second, or ends inside the first. -/
theorem prefix_append_cases {α : Type} {q a b : List α} (h : q <+: a ++ b) :
    (∃ r, q = a ++ r ∧ r <+: b) ∨ q <+: a ∧ q ≠ a := by
  rcases List.prefix_or_prefix_of_prefix h (List.prefix_append a b) with hqa | ⟨r, rfl⟩
  · by_cases heq : q = a
    · exact .inl ⟨[], by simp [heq], List.nil_prefix⟩
    · exact .inr ⟨hqa, heq⟩
  · exact .inl ⟨r, rfl, (List.prefix_append_right_inj a).1 h⟩

namespace Text

theorem linesFrom_append {s : Text} (hs : .char '\n' ∉ s) (line rest : Text) :
    linesFrom line (s ++ rest) = linesFrom (s.reverse ++ line) rest := by
  induction s generalizing line with
  | nil => rfl
  | cons g s ih =>
    rw [List.mem_cons, not_or] at hs
    rw [List.cons_append, linesFrom, if_neg (Ne.symm hs.1), ih hs.2, List.reverse_cons, List.append_assoc]
    rfl

/-- A line that ends in a line feed is the first one of the text. -/
theorem lines_line {s : Text} (hs : .char '\n' ∉ s) (rest : Text) :
    lines (s ++ .char '\n' :: rest) = (s ++ [.char '\n']) :: lines rest := by
  rw [lines, linesFrom_append hs, linesFrom, if_pos rfl]
  simp [lines]

theorem lines_flatten {ss : List Text} (hss : ∀ s ∈ ss, .char '\n' ∉ s) (rest : Text) :
    lines ((ss.map (· ++ [.char '\n'])).flatten ++ rest) =
      ss.map (· ++ [.char '\n']) ++ lines rest := by
  induction ss with
  | nil => rfl
  | cons s ss ih =>
    obtain ⟨hs, hss⟩ := List.forall_mem_cons.1 hss
    simp only [List.map_cons, List.flatten_cons, List.append_assoc, List.cons_append,
      List.nil_append]
    rw [lines_line hs, ih hss]

theorem unifyNewlines_eq {s : Text} (hs : .char '\r' ∉ s) : unifyNewlines s = s := by
  fun_induction unifyNewlines s with
  | case1 => rfl
  | case2 rest ih => simp at hs
  | case3 rest _ ih => simp at hs
  | case4 g rest _ _ ih =>
    rw [List.mem_cons, not_or] at hs
    rw [ih hs.2]

theorem unifyNewlines_eq_nil {s : Text} : unifyNewlines s = [] ↔ s = [] := by
  fun_cases unifyNewlines s <;> simp

/-- A line feed between two texts stays between them, unless it completes the line end of the
first. -/
theorem unifyNewlines_newline (a b : Text) :
    ∃ t, unifyNewlines (a ++ .char '\n' :: b) = t ++ .char '\n' :: unifyNewlines b ∧
      (unifyNewlines a = t ∨ unifyNewlines a = t ++ [.char '\n']) := by
  fun_induction unifyNewlines a with
  | case1 => exact ⟨[], by simp [unifyNewlines], .inl rfl⟩
  | case2 rest ih =>
    obtain ⟨t, hboth, hfirst⟩ := ih
    exact ⟨.char '\n' :: t, by simp [unifyNewlines, hboth], hfirst.imp (by simp [·]) (by simp [·])⟩
  | case3 rest hrest ih =>
    cases rest with
    | nil =>
      -- the carriage return at the end takes the line feed to itself
      exact ⟨[], by simp [unifyNewlines], .inr rfl⟩
    | cons g rest =>
      obtain ⟨t, hboth, hfirst⟩ := ih
      refine ⟨.char '\n' :: t, ?_, hfirst.imp (by simp [·]) (by simp [·])⟩
      rw [List.cons_append, unifyNewlines, hboth, List.cons_append]
      intro rest' heq
      exact hrest rest (by rw [(List.cons.inj heq).1])
  | case4 g rest hpair hreturn ih =>
    obtain ⟨t, hboth, hfirst⟩ := ih
    refine ⟨g :: t, ?_, hfirst.imp (by simp [·]) (by simp [·])⟩
    rw [List.cons_append, unifyNewlines, hboth, List.cons_append]
    · exact fun _ heq _ => hreturn heq
    · exact hreturn

theorem isBlank_newline : isBlank (.char '\n') = true := by decide

theorem dropEndWhile_prefix (p : Glyph → Bool) (s : Text) : dropEndWhile p s <+: s := by
  rw [dropEndWhile, ← List.reverse_suffix, List.reverse_reverse]
  exact List.dropWhile_suffix p

theorem dropEndWhile_concat_of_not {p : Glyph → Bool} {g : Glyph} (hg : p g = false) (s : Text) :
    dropEndWhile p (s ++ [g]) = s ++ [g] := by
  simp [dropEndWhile, hg]

theorem dropEndWhile_concat {p : Glyph → Bool} {g : Glyph} (hg : p g = true) (s : Text) :
    dropEndWhile p (s ++ [g]) = dropEndWhile p s := by
  simp [dropEndWhile, hg]

theorem trim_cons {g : Glyph} (hg : isBlank g = false) (s : Text) :
    trim (g :: s) = dropEndWhile isBlank (g :: s) := by
  rw [trim, List.dropWhile_cons_of_neg (by simp [hg])]

theorem trim_newline (s : Text) : trim (s ++ [.char '\n']) = trim s := by
  rw [trim, trim, List.dropWhile_append]
  split
  next hempty =>
    rw [List.isEmpty_iff.1 hempty]
    rfl
  next => exact dropEndWhile_concat isBlank_newline _

end Text

end QueryBench
