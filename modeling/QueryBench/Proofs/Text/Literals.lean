import QueryBench.Text.Search

/-!
# Literals of a statement

A literal starts with a quote and ends at the next quote that is not doubled; a doubled quote inside
stands for one. `lexemes` cuts a text into literals and the glyphs outside of them. A text has one
reading at most, and a literal is spelled in one way: its quotes are doubled. So a text that is put
between quotes as it stands is read back exactly if it has no quote.

Main definitions: `Lexeme`, `lexemes`, `doubled`, `readList`. Main statements:
`lexemes_between_quotes_iff`, `readList_between_quotes_iff`.
-/
set_option autoImplicit false

namespace QueryBench.Text

/-- The quote around a literal. -/
def quote : Glyph := .char '\''

/-- A literal, known by its value, or a glyph outside of literals. -/
inductive Lexeme where
  | literal (value : Text)
  | mark (g : Glyph)
  deriving DecidableEq, Repr

/-- Where a reader stands: outside of literals, in one of which a part was read, or behind a quote in
it, which ends the literal unless another one follows. -/
inductive Reader where
  | outside
  | inside (value : Text)
  | behindQuote (value : Text)

/-- The literals and other glyphs of a text from a reader's standpoint on; none if a literal does not
end. -/
def lexemesFrom : Reader → Text → Option (List Lexeme)
  | .outside, [] => some []
  | .inside _, [] => none
  | .behindQuote value, [] => some [.literal value]
  | .outside, g :: rest =>
    if g = quote then lexemesFrom (.inside []) rest
    else (lexemesFrom .outside rest).map (.mark g :: ·)
  | .inside value, g :: rest =>
    if g = quote then lexemesFrom (.behindQuote value) rest
    else lexemesFrom (.inside (value ++ [g])) rest
  | .behindQuote value, g :: rest =>
    if g = quote then lexemesFrom (.inside (value ++ [quote])) rest
    else (lexemesFrom .outside rest).map fun found => .literal value :: .mark g :: found

/-- The literals and other glyphs of a text. -/
def lexemes (s : Text) : Option (List Lexeme) :=
  lexemesFrom .outside s

/-! ## Spelling -/

/-- A text with every quote doubled. -/
def doubled (s : Text) : Text :=
  replaceChar '\'' [quote, quote] s

/-- A text put between quotes as it stands. -/
def betweenQuotes (s : Text) : Text :=
  "'" ++ s ++ "'"

/-- How a literal or glyph is spelled. -/
def Lexeme.spelled : Lexeme → Text
  | .literal value => quote :: doubled value ++ [quote]
  | .mark g => [g]

/-- What a reader has read of a literal that is still open. -/
def Reader.passed : Reader → Text
  | .outside => []
  | .inside value => quote :: doubled value
  | .behindQuote value => quote :: doubled value ++ [quote]

theorem doubled_append (s t : Text) : doubled (s ++ t) = doubled s ++ doubled t :=
  List.flatMap_append ..

theorem doubled_quote : doubled [quote] = [quote, quote] := rfl

theorem doubled_of_ne {g : Glyph} (hg : g ≠ quote) : doubled [g] = [g] := by
  have hchar : g ≠ .char '\'' := hg
  simp [doubled, replaceChar, hchar]

theorem count_doubled (s : Text) : (doubled s).count quote = 2 * s.count quote := by
  induction s with
  | nil => rfl
  | cons g s ih =>
    rw [← List.singleton_append, doubled_append, List.count_append, ih, List.count_append]
    by_cases hg : g = quote
    · have hone : [quote].count quote = 1 := by decide
      have htwo : [quote, quote].count quote = 2 := by decide
      rw [hg, doubled_quote, hone, htwo]
      omega
    · rw [doubled_of_ne hg]
      simp [hg]

theorem doubled_eq_self_iff {s : Text} : doubled s = s ↔ quote ∉ s := by
  constructor
  · intro h
    have hcount := count_doubled s
    rw [h] at hcount
    exact List.count_eq_zero.1 (by omega)
  · intro h
    induction s with
    | nil => rfl
    | cons g s ih =>
      rw [List.mem_cons, not_or] at h
      rw [← List.singleton_append, doubled_append, doubled_of_ne (Ne.symm h.1), ih h.2]

/-- What is read is spelled by the text. -/
theorem spelled_of_lexemesFrom {reader : Reader} {s : Text} {found : List Lexeme}
    (h : lexemesFrom reader s = some found) : reader.passed ++ s = found.flatMap Lexeme.spelled := by
  -- each glyph moves the reader on, and what it has passed grows by this glyph
  induction s generalizing reader found with
  | nil =>
    cases reader with
    | outside =>
      cases h
      rfl
    | inside value => cases h
    | behindQuote value =>
      cases h
      simp [Reader.passed, Lexeme.spelled]
  | cons g s ih =>
    cases reader with
    | outside =>
      rw [lexemesFrom] at h
      by_cases hg : g = quote
      · rw [if_pos hg] at h
        rw [hg]
        exact ih h
      · rw [if_neg hg] at h
        obtain ⟨rest, hrest, rfl⟩ := Option.map_eq_some_iff.1 h
        have hs : s = rest.flatMap Lexeme.spelled := ih hrest
        rw [List.flatMap_cons, ← hs]
        rfl
    | inside value =>
      rw [lexemesFrom] at h
      by_cases hg : g = quote
      · rw [if_pos hg] at h
        rw [← ih h, hg]
        simp [Reader.passed]
      · rw [if_neg hg] at h
        rw [← ih h]
        simp [Reader.passed, doubled_append, doubled_of_ne hg]
    | behindQuote value =>
      rw [lexemesFrom] at h
      by_cases hg : g = quote
      · rw [if_pos hg] at h
        rw [← ih h, hg]
        simp [Reader.passed, doubled_append, doubled_quote]
      · rw [if_neg hg] at h
        obtain ⟨rest, hrest, rfl⟩ := Option.map_eq_some_iff.1 h
        have hs : s = rest.flatMap Lexeme.spelled := ih hrest
        rw [List.flatMap_cons, List.flatMap_cons, ← hs]
        simp [Reader.passed, Lexeme.spelled]

theorem spelled_of_lexemes {s : Text} {found : List Lexeme} (h : lexemes s = some found) :
    s = found.flatMap Lexeme.spelled :=
  spelled_of_lexemesFrom h

/-! ## Reading what is spelled -/

theorem lexemesFrom_doubled (value s rest : Text) :
    lexemesFrom (.inside value) (doubled s ++ rest) = lexemesFrom (.inside (value ++ s)) rest := by
  induction s generalizing value with
  | nil => simp [doubled, replaceChar]
  | cons g s ih =>
    rw [← List.singleton_append, doubled_append, List.append_assoc, ← List.append_assoc value, ← ih]
    by_cases hg : g = quote
    · subst hg
      simp [doubled_quote, lexemesFrom]
    · rw [doubled_of_ne hg]
      simp [lexemesFrom, hg]

/-- A literal is read up to its last quote, unless another quote follows. -/
theorem lexemes_literal (value : Text) {rest : Text} (hrest : rest.head? ≠ some quote) :
    lexemes ((Lexeme.literal value).spelled ++ rest) =
      (lexemes rest).map (.literal value :: ·) := by
  rw [Lexeme.spelled, List.append_assoc, List.cons_append, List.singleton_append, lexemes, lexemesFrom,
    if_pos rfl, lexemesFrom_doubled, lexemesFrom, if_pos rfl, List.nil_append]
  cases rest with
  | nil => rfl
  | cons g rest =>
    have hg : g ≠ quote := fun h => hrest (congrArg some h)
    rw [lexemesFrom, if_neg hg, lexemes, lexemesFrom, if_neg hg, Option.map_map]
    rfl

theorem lexemes_mark {g : Glyph} (hg : g ≠ quote) (rest : Text) :
    lexemes (g :: rest) = (lexemes rest).map (.mark g :: ·) := by
  rw [lexemes, lexemesFrom, if_neg hg]
  rfl

/-- A text between quotes is a literal of another text exactly if it is this one with its quotes
doubled. -/
theorem lexemes_between_quotes_iff {s value : Text} :
    lexemes (betweenQuotes s) = some [.literal value] ↔ s = doubled value := by
  constructor
  · intro h
    have hspelled : (quote :: s) ++ [quote] = (quote :: doubled value) ++ [quote] ++ [] :=
      spelled_of_lexemes h
    rw [List.append_nil] at hspelled
    exact (List.cons.inj (List.append_cancel_right hspelled)).2
  · rintro rfl
    have hend : ([] : Text).head? ≠ some quote := by simp
    have hread := lexemes_literal value hend
    rw [List.append_nil] at hread
    exact hread

theorem lexemes_between_quotes_self_iff {s : Text} :
    lexemes (betweenQuotes s) = some [.literal s] ↔ quote ∉ s := by
  rw [lexemes_between_quotes_iff, eq_comm, doubled_eq_self_iff]

/-! ## Lists of literals -/

/-- The value of a literal. -/
def Lexeme.value? : Lexeme → Option Text
  | .literal value => some value
  | .mark _ => none

/-- Literals with a comma and a blank between them. -/
def itemLexemes : List Text → List Lexeme
  | [] => []
  | [s] => [.literal s]
  | s :: t :: rest => .literal s :: .mark ',' :: .mark ' ' :: itemLexemes (t :: rest)

/-- A list of literals between parentheses. -/
def listLexemes (items : List Text) : List Lexeme :=
  .mark '(' :: itemLexemes items ++ [.mark ')']

/-- The values of a text that is a list of literals between parentheses. -/
def readList (s : Text) : Option (List Text) := do
  let found ← lexemes s
  let items := found.filterMap Lexeme.value?
  if found = listLexemes items then some items else none

theorem values_itemLexemes (items : List Text) :
    (itemLexemes items).filterMap Lexeme.value? = items := by
  fun_induction itemLexemes items with
  | case1 => rfl
  | case2 s => rfl
  | case3 s t rest ih =>
    rw [List.filterMap_cons_some (f := Lexeme.value?) rfl, List.filterMap_cons_none rfl,
      List.filterMap_cons_none rfl, ih]

theorem readList_eq_some_iff {s : Text} {items : List Text} :
    readList s = some items ↔ lexemes s = some (listLexemes items) := by
  have hvalues : (listLexemes items).filterMap Lexeme.value? = items := by
    rw [listLexemes, List.cons_append, List.filterMap_cons_none rfl, List.filterMap_append,
      values_itemLexemes]
    exact List.append_nil items
  constructor
  · intro h
    obtain ⟨found, hfound, h⟩ := Option.bind_eq_some_iff.1 h
    dsimp only at h
    split at h
    · rename_i hlist
      cases h
      rw [hfound, ← hlist]
    · cases h
  · intro h
    rw [readList, h, Option.bind_eq_bind, Option.bind_some, hvalues, if_pos rfl]

theorem join_cons_cons (separator a b : Text) (rest : List Text) :
    join separator (a :: b :: rest) = a ++ separator ++ join separator (b :: rest) :=
  List.intercalate_cons_cons ..

theorem spelled_itemLexemes (items : List Text) :
    (itemLexemes items).flatMap Lexeme.spelled =
      join ", " (items.map fun s => (Lexeme.literal s).spelled) := by
  fun_induction itemLexemes items with
  | case1 => rfl
  | case2 s => simp [join]
  | case3 s t rest ih =>
    simp only [List.flatMap_cons, ih, List.map_cons, join_cons_cons, List.append_assoc]
    rfl

/-- Literals that are written with a comma and a blank between them are read back. -/
theorem lexemes_items (items : List Text) {rest : Text} (hrest : rest.head? ≠ some quote) :
    lexemes (join ", " (items.map fun s => (Lexeme.literal s).spelled) ++ rest) =
      (lexemes rest).map (itemLexemes items ++ ·) := by
  fun_induction itemLexemes items with
  | case1 => simp [join]
  | case2 s => simpa [join] using lexemes_literal s hrest
  | case3 s t others ih =>
    have hcomma : Glyph.char ',' ≠ quote := by decide
    have hblank : Glyph.char ' ' ≠ quote := by decide
    rw [List.map_cons, List.map_cons, join_cons_cons, List.append_assoc, List.append_assoc]
    have hnext (s : Text) : (ofString ", " ++ s) = .char ',' :: .char ' ' :: s := rfl
    rw [List.map_cons] at ih
    rw [hnext, lexemes_literal s (by simpa using hcomma), lexemes_mark hcomma, lexemes_mark hblank, ih]
    simp [Function.comp_def]

theorem count_join {g : Glyph} {separator : Text} (hg : g ∉ separator) (texts : List Text) :
    (join separator texts).count g = texts.flatten.count g := by
  induction texts with
  | nil => rfl
  | cons a texts ih =>
    cases texts with
    | nil => simp [join]
    | cons b rest =>
      rw [join_cons_cons, List.count_append, List.count_append, List.count_eq_zero.2 hg, ih,
        Nat.add_zero, ← List.count_append]
      rfl

/-- The text of a list whose items are written one way or another. -/
def listText (texts : List Text) : Text :=
  "(" ++ join ", " texts ++ ")"

theorem count_listText (texts : List Text) :
    (listText texts).count quote = texts.flatten.count quote := by
  have hcomma : quote ∉ ofString ", " := by decide
  have hopening : (ofString "(").count quote = 0 := by decide
  have hclosing : (ofString ")").count quote = 0 := by decide
  rw [listText, List.count_append, List.count_append, count_join hcomma, hopening, hclosing,
    Nat.zero_add, Nat.add_zero]

theorem spelled_listLexemes (items : List Text) :
    (listLexemes items).flatMap Lexeme.spelled =
      listText (items.map fun s => (Lexeme.literal s).spelled) := by
  rw [listLexemes, List.cons_append, List.flatMap_cons, List.flatMap_append, spelled_itemLexemes]
  rfl

theorem lexemes_listText (items : List Text) :
    lexemes (listText (items.map fun s => (Lexeme.literal s).spelled)) = some (listLexemes items) := by
  have hopening : Glyph.char '(' ≠ quote := by decide
  have hclosing : Glyph.char ')' ≠ quote := by decide
  have hend : [Glyph.char ')'].head? ≠ some quote := by simpa using hclosing
  have hitems := lexemes_items items hend
  rw [lexemes_mark hclosing] at hitems
  have hlist := lexemes_mark hopening
    (join ", " (items.map fun s => (Lexeme.literal s).spelled) ++ [.char ')'])
  rw [hitems] at hlist
  exact hlist

/-- A literal has two quotes for each one of a text between quotes, but for the outer ones. -/
theorem count_spelled (s : Text) :
    (Lexeme.literal s).spelled.count quote = (betweenQuotes s).count quote + s.count quote := by
  have hone : (ofString "'").count quote = 1 := by decide
  rw [Lexeme.spelled, betweenQuotes, List.count_append, List.count_cons_self, count_doubled,
    List.count_append, List.count_append, hone, List.count_singleton_self]
  omega

theorem count_spelled_items (items : List Text) :
    (items.map fun s => (Lexeme.literal s).spelled).flatten.count quote =
      (items.map betweenQuotes).flatten.count quote + items.flatten.count quote := by
  induction items with
  | nil => rfl
  | cons s items ih =>
    simp only [List.map_cons, List.flatten_cons, List.count_append, ih, count_spelled]
    omega

/-- Texts that are put between quotes as they stand are read back as a list exactly if none of them has
a quote: as literals they would have more quotes. -/
theorem readList_between_quotes_iff {items : List Text} :
    readList (listText (items.map betweenQuotes)) = some items ↔ ∀ s ∈ items, quote ∉ s := by
  rw [readList_eq_some_iff]
  constructor
  · intro h
    have hspelled := spelled_of_lexemes h
    rw [spelled_listLexemes] at hspelled
    have hcount := congrArg (List.count quote) hspelled
    rw [count_listText, count_listText, count_spelled_items] at hcount
    have hnone : quote ∉ items.flatten := List.count_eq_zero.1 (by omega)
    intro s hs hquote
    exact hnone (List.mem_flatten.2 ⟨s, hs, hquote⟩)
  · intro h
    have hitems : items.map betweenQuotes = items.map fun s => (Lexeme.literal s).spelled := by
      refine List.map_congr_left fun s hs => ?_
      rw [Lexeme.spelled, doubled_eq_self_iff.2 (h s hs)]
      rfl
    rw [hitems]
    exact lexemes_listText items

end QueryBench.Text
