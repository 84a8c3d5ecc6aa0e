import QueryBench.Plan.Task
import QueryBench.Proofs.Outcome

/-!
# Quoted table names

Blanks cut a text into its words, so words that are joined by single blanks are found again. A table
expression is taken apart and joined that way with its first word quoted, and a quoted word starts with
a quote. Hence quoting an expression twice is quoting it once.

Main definition: `Plan.quotedName`. Main statement: `Plan.quoting_stable`.
-/
set_option autoImplicit false

namespace QueryBench

/-! ## Words -/

namespace Text

/-- Is the text not empty and without a blank? -/
def IsWord (w : Text) : Prop :=
  w ≠ [] ∧ ∀ g ∈ w, isBlank g = false

theorem wordsFrom_append_blank {b : Glyph} (hb : isBlank b = true) (word s t : Text) :
    wordsFrom word (s ++ b :: t) = wordsFrom word s ++ words t := by
  fun_induction wordsFrom word s with
  | case1 word hempty => rw [List.nil_append, wordsFrom, if_pos hb, if_pos hempty, words, List.nil_append]
  | case2 word hword =>
    rw [List.nil_append, wordsFrom, if_pos hb, if_neg hword, words, List.singleton_append]
  | case3 word g rest hblank hempty ih => rw [List.cons_append, wordsFrom, if_pos hblank, if_pos hempty, ih]
  | case4 word g rest hblank hword ih =>
    rw [List.cons_append, wordsFrom, if_pos hblank, if_neg hword, ih, List.cons_append]
  | case5 word g rest hblank ih => rw [List.cons_append, wordsFrom, if_neg hblank, ih]

theorem words_append_blank {b : Glyph} (hb : isBlank b = true) (s t : Text) :
    words (s ++ b :: t) = words s ++ words t :=
  wordsFrom_append_blank hb [] s t

theorem wordsFrom_of_not_blank {s : Text} (hs : ∀ g ∈ s, isBlank g = false) (word : Text)
    (hne : word.reverse ++ s ≠ []) : wordsFrom word s = [word.reverse ++ s] := by
  induction s generalizing word with
  | nil =>
    have hword : word ≠ [] := by simpa using hne
    rw [wordsFrom, if_neg (by simpa using hword), List.append_nil]
  | cons g s ih =>
    obtain ⟨hg, hs⟩ := List.forall_mem_cons.1 hs
    rw [wordsFrom, if_neg (by simp [hg]), ih hs (g :: word) (by simp)]
    simp

theorem words_of_isWord {w : Text} (hw : IsWord w) : words w = [w] :=
  wordsFrom_of_not_blank hw.2 [] hw.1

theorem isWord_of_mem_wordsFrom {word s : Text} (hword : ∀ g ∈ word, isBlank g = false) :
    ∀ w ∈ wordsFrom word s, IsWord w := by
  fun_induction wordsFrom word s with
  | case1 word hempty => simp
  | case2 word hne =>
    refine List.forall_mem_singleton.2 ⟨by simpa using hne, fun g hg => hword g ?_⟩
    exact List.mem_reverse.1 hg
  | case3 word g rest hblank hempty ih => exact ih (List.forall_mem_nil _)
  | case4 word g rest hblank hne ih =>
    refine List.forall_mem_cons.2 ⟨⟨by simpa using hne, fun g hg => hword g ?_⟩, ih (List.forall_mem_nil _)⟩
    exact List.mem_reverse.1 hg
  | case5 word g rest hblank ih =>
    exact ih (List.forall_mem_cons.2 ⟨by simpa using hblank, hword⟩)

theorem isWord_of_mem_words {s : Text} : ∀ w ∈ words s, IsWord w :=
  isWord_of_mem_wordsFrom (List.forall_mem_nil _)

/-- Words that are joined by blanks are found again. -/
theorem words_join {ws : List Text} (hws : ∀ w ∈ ws, IsWord w) : words (join " " ws) = ws := by
  induction ws with
  | nil => rfl
  | cons w ws ih =>
    obtain ⟨hw, hws⟩ := List.forall_mem_cons.1 hws
    cases ws with
    | nil =>
      rw [join, List.intercalate_singleton]
      exact words_of_isWord hw
    | cons v ws =>
      have hjoin : join " " (w :: v :: ws) = w ++ .char ' ' :: join " " (v :: ws) := by
        rw [join, List.intercalate_cons_cons, List.append_assoc]
        rfl
      rw [hjoin, words_append_blank (by decide), words_of_isWord hw, ih hws, List.singleton_append]

theorem wordsFrom_ne_nil {word : Text} (hword : word ≠ []) (s : Text) : wordsFrom word s ≠ [] := by
  induction s generalizing word with
  | nil => simp [wordsFrom, hword]
  | cons g s ih =>
    cases hg : isBlank g with
    | true => simp [wordsFrom, hg, hword]
    | false =>
      rw [wordsFrom, hg]
      exact ih (List.cons_ne_nil g word)

/-- Only a text that is blank all through has no words. -/
theorem words_eq_nil_iff {s : Text} : words s = [] ↔ isBlankText s = true := by
  induction s with
  | nil => simp [words, wordsFrom, isBlankText]
  | cons g s ih =>
    cases hg : isBlank g with
    | true =>
      have hwords : words (g :: s) = words s := words_append_blank hg [] s
      rw [hwords, ih, isBlankText, isBlankText, List.all_cons, hg, Bool.true_and]
    | false =>
      have hwords : words (g :: s) = wordsFrom [g] s := by rw [words, wordsFrom, hg]; rfl
      simp [hwords, wordsFrom_ne_nil, isBlankText, hg]

end Text

/-! ## Table expressions -/

namespace Plan

/-- A name between double quotes, unless it starts with one already. -/
def quotedName (name : Text) : Text :=
  if name.head? = some (.char '"') then name else .char '"' :: name ++ [.char '"']

theorem head?_quotedName (name : Text) : (quotedName name).head? = some (.char '"') := by
  unfold quotedName
  split
  next h => exact h
  next => rfl

theorem quotedName_twice (name : Text) : quotedName (quotedName name) = quotedName name :=
  if_pos (head?_quotedName name)

theorem isWord_quotedName {name : Text} (h : Text.IsWord name) : Text.IsWord (quotedName name) := by
  unfold quotedName
  split
  next => exact h
  next =>
    refine ⟨by simp, ?_⟩
    rw [List.cons_append, List.forall_mem_cons, List.forall_mem_append, List.forall_mem_singleton]
    exact ⟨by decide, h.2, by decide⟩

theorem quotedName_eq (name : Text) :
    quotedName name = if Text.startsWith "\"" name then name else "\"" ++ name ++ "\"" := by
  cases name with
  | nil => rfl
  | cons g rest =>
    have hstarts : Text.startsWith "\"" (g :: rest) = true ↔ g = .char '"' := by
      rw [Text.startsWith, List.isPrefixOf_iff_prefix]
      exact List.cons_prefix_cons.trans ⟨fun h => h.1.symm, fun h => ⟨h.symm, List.nil_prefix⟩⟩
    simp only [quotedName, hstarts, List.head?_cons, Option.some_inj]
    rfl

/-- The words of an expression are joined again, the first of them quoted. -/
theorem quoteWords_of_words {s name : Text} {rest : List Text} (h : Text.words s = name :: rest) :
    quoteWords s = .ok (Text.join " " (quotedName name :: rest)) := by
  rw [quoteWords, h, quotedName_eq, Text.join]
  cases rest with
  | nil =>
    rw [List.intercalate_singleton]
    rfl
  | cons w rest =>
    rw [List.intercalate_cons_cons]
    rfl

theorem words_quoted {s name : Text} {rest : List Text} (h : Text.words s = name :: rest) :
    Text.words (Text.join " " (quotedName name :: rest)) = quotedName name :: rest := by
  have hws : ∀ w ∈ name :: rest, Text.IsWord w := h ▸ Text.isWord_of_mem_words
  obtain ⟨hname, hrest⟩ := List.forall_mem_cons.1 hws
  exact Text.words_join (List.forall_mem_cons.2 ⟨isWord_quotedName hname, hrest⟩)

theorem quoteTable_text {s : Text} (hs : s ≠ []) :
    quoteTable (.text s) = (quoteWords s).map .text := by
  have hvoid : (Doc.text s).isVoid = false := by simpa [Doc.isVoid] using hs
  rw [quoteTable, hvoid, if_neg (by decide), Doc.textFor, ok_bind]
  cases quoteWords s <;> rfl

/-- Quoting fails on the expressions that hold blanks and nothing else. Any other expression is turned
into one that quoting leaves as it is, with the same words but for the first, which is quoted. -/
theorem quoting_stable (t : Text) :
    ((∃ fault, quoteTable (.text t) = .error fault) ↔ t ≠ [] ∧ Text.isBlankText t = true) ∧
      ((∃ fault, quoteTable (.text t) = .error fault) ∨
        ∃ s, quoteTable (.text t) = .ok (.text s) ∧ quoteTable (.text s) = .ok (.text s) ∧
          Text.words s = (Text.words t).modifyHead quotedName) := by
  by_cases hempty : t = []
  · subst hempty
    have hkept : quoteTable (.text []) = .ok (.text []) := rfl
    refine ⟨?_, .inr ⟨[], hkept, hkept, rfl⟩⟩
    simp [hkept]
  · rw [quoteTable_text hempty, ← Text.words_eq_nil_iff]
    cases hwords : Text.words t with
    | nil =>
      have hfault : (quoteWords t).map Doc.text = .error .outOfRange := by
        rw [quoteWords, hwords]
        rfl
      exact ⟨⟨fun _ => ⟨hempty, rfl⟩, fun _ => ⟨_, hfault⟩⟩, .inl ⟨_, hfault⟩⟩
    | cons name rest =>
      have hquoted : (quoteWords t).map Doc.text = .ok (.text (Text.join " " (quotedName name :: rest))) := by
        rw [quoteWords_of_words hwords]
        rfl
      have hagain := words_quoted hwords
      have hne : Text.join " " (quotedName name :: rest) ≠ [] := by
        intro h
        rw [h] at hagain
        cases hagain
      refine ⟨by simp [hquoted], .inr ⟨_, hquoted, ?_, hagain⟩⟩
      rw [quoteTable_text hne, quoteWords_of_words hagain, quotedName_twice]
      rfl

example : (quoteTable (.text " loan\t l ")).toOption.map Doc.display = some "\"loan\" l" := by
  decide +kernel

end Plan

end QueryBench
