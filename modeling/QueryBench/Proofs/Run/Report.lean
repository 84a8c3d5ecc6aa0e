import QueryBench.Proofs.Json.Whole
import QueryBench.Proofs.Text.Lines
import QueryBench.Run.TestSet

/-!
# Reports line by line

A report holds one result a line. A line of a whole result gives it back, and a line that was cut
off inside a result is passed over. So of a report that was cut off anywhere, those results are read
whose objects are complete.

Main definitions: `TestSet.resultOf?`, `TestSet.resultsOf`, `TestSet.resultLines`,
`TestSet.Reportable`. Main statements: `resume_eq` and `lines_cut`.
-/
set_option autoImplicit false

namespace QueryBench.TestSet

/-- The result that a line of a report holds. -/
def resultOf? (line : Text) : Option Doc :=
  if Text.isBlankText line then none else (Json.read (Text.trim line)).toOption

theorem resultOf?_newline (line : Text) : resultOf? (line ++ [.char '\n']) = resultOf? line := by
  have hblank : Text.isBlankText (line ++ [.char '\n']) = Text.isBlankText line := by
    simp [Text.isBlankText, Text.isBlank_newline]
  rw [resultOf?, resultOf?, hblank, Text.trim_newline]

/-- The results that a report holds, in the order of its lines. -/
def resultsOf (report : Text) : List Doc :=
  (Text.lines report).filterMap resultOf?

/-- Is nothing worse wrong with a line than its form? -/
def Legible (line : Text) : Prop :=
  Text.isBlankText line = true ∨ (∃ d, Json.read (Text.trim line) = .ok d) ∨
    ∃ description, Json.read (Text.trim line) = .error (.malformed description)

/-- A report is resumed by counting the results that its lines hold. -/
theorem resume_eq {lines : List Text} (hlines : ∀ line ∈ lines, Legible line) (tally : Doc)
    (done : Nat) :
    resume tally done lines = (do
      let tally ← (lines.filterMap resultOf?).foldlM Tally.count tally
      return (tally, done + (lines.filterMap resultOf?).length)) := by
  induction lines generalizing tally done with
  | nil => rfl
  | cons line rest ih =>
    obtain ⟨hline, hrest⟩ := List.forall_mem_cons.1 hlines
    have ih := ih hrest
    rw [resume]
    rcases hline with hblank | ⟨d, hread⟩ | ⟨description, hread⟩
    · have hnone : resultOf? line = none := if_pos hblank
      rw [if_pos hblank, ih, List.filterMap_cons_none hnone]
    · by_cases hblank : Text.isBlankText line = true
      · have hnone : resultOf? line = none := if_pos hblank
        rw [if_pos hblank, ih, List.filterMap_cons_none hnone]
      · have hsome : resultOf? line = some d := by
          rw [resultOf?, if_neg hblank, hread]
          rfl
        rw [if_neg hblank, hread, List.filterMap_cons_some hsome, List.foldlM_cons]
        simp only
        cases Tally.count tally d with
        | error fault => rfl
        | ok tally =>
          rw [ok_bind, ih, ok_bind, List.length_cons, Nat.add_assoc, Nat.add_comm 1]
    · by_cases hblank : Text.isBlankText line = true
      · have hnone : resultOf? line = none := if_pos hblank
        rw [if_pos hblank, ih, List.filterMap_cons_none hnone]
      · have hnone : resultOf? line = none := by
          rw [resultOf?, if_neg hblank, hread]
          rfl
        rw [if_neg hblank, hread, List.filterMap_cons_none hnone]
        exact ih tally done

theorem legible_of_resume {lines : List Text} {tally : Doc} {done : Nat} {r : Doc × Nat}
    (h : resume tally done lines = .ok r) : ∀ line ∈ lines, Legible line := by
  induction lines generalizing tally done with
  | nil => exact List.forall_mem_nil _
  | cons line rest ih =>
    rw [resume] at h
    split at h
    next hblank => exact List.forall_mem_cons.2 ⟨.inl hblank, ih h⟩
    next =>
      split at h
      next result hread =>
        obtain ⟨tally', -, h⟩ := ok_of_bind h
        exact List.forall_mem_cons.2 ⟨.inr (.inl ⟨result, hread⟩), ih h⟩
      next description hread =>
        exact List.forall_mem_cons.2 ⟨.inr (.inr ⟨description, hread⟩), ih h⟩
      next => cases h

/-- A report that could be resumed was counted, result by result. -/
theorem resume_ok {report : Text} {tally : Doc} {done : Nat}
    (h : resume Tally.start 0 (Text.lines report) = .ok (tally, done)) :
    (resultsOf report).foldlM Tally.count Tally.start = .ok tally ∧
      done = (resultsOf report).length := by
  rw [resume_eq (legible_of_resume h)] at h
  obtain ⟨total, htotal, h⟩ := ok_of_bind h
  cases h
  exact ⟨htotal, Nat.zero_add _⟩

/-! ## Written results -/

/-- A result that can be written and read again. -/
structure Reportable (result : Doc) : Prop where
  record : ∃ fields, result = .record fields
  short : result.Short
  shallow : result.depth ≤ Json.depthLimit

theorem reportLine_eq_ok {result : Doc} {line : Text} (h : reportLine result = .ok line) :
    result.Short ∧ result.depth ≤ Json.depthLimit ∧
      line = Json.write .line result ++ [.char '\n'] := by
  unfold reportLine at h
  split at h
  next => cases h
  next hdepth =>
    obtain ⟨text, htext, h⟩ := ok_of_bind h
    obtain ⟨hshort, rfl⟩ := Json.writeChecked_eq_ok htext
    exact ⟨hshort, by omega, (Except.ok.inj h).symm⟩

/-- The line of a result. -/
def lineOf (result : Doc) : Text :=
  Json.write .line result ++ [.char '\n']

theorem reportLine_of_short {result : Doc} (hshort : result.Short)
    (hdepth : result.depth ≤ Json.depthLimit) : reportLine result = .ok (lineOf result) := by
  unfold reportLine
  rw [if_neg (Nat.not_lt.2 hdepth), Json.writeChecked_of_short hshort]
  rfl

theorem whole_lineOf {result : Doc} : Text.Utf8.Whole (lineOf result) ↔ result.Whole := by
  rw [lineOf, Json.whole_append, Json.write, Json.writeAt_line, Json.whole_lineText]
  exact and_iff_left (by simp [Text.Utf8.Whole])

/-- A report of results. -/
def reportOf (results : List Doc) : Text :=
  (results.map lineOf).flatten

theorem printed_write (result : Doc) : Json.Printed (Json.write .line result) := by
  rw [Json.write, Json.writeAt_line]
  exact Json.printed_lineText result

theorem newline_not_mem {result : Doc} {q : Text} (hq : q <+: Json.write .line result) :
    .char '\n' ∉ q ∧ .char '\r' ∉ q := by
  constructor <;> intro hmem
  · exact absurd (printed_write result _ (hq.subset hmem)) (by decide)
  · exact absurd (printed_write result _ (hq.subset hmem)) (by decide)

namespace Reportable
variable {result : Doc}

theorem braces (h : Reportable result) :
    ∃ inner, Json.write .line result = .char '\x7b' :: (inner ++ [.char '\x7d']) := by
  obtain ⟨fields, rfl⟩ := h.record
  exact Json.write_record fields

theorem trim_write (h : Reportable result) :
    Text.trim (Json.write .line result) = Json.write .line result := by
  obtain ⟨inner, htext⟩ := h.braces
  rw [htext, Text.trim_cons (by decide), ← List.cons_append,
    Text.dropEndWhile_concat_of_not (by decide)]

theorem read_trim (h : Reportable result) :
    Json.read (Text.trim (Json.write .line result)) = .ok result.merged := by
  rw [h.trim_write]
  exact Json.read_write_line h.short h.shallow

theorem resultOf?_write (h : Reportable result) :
    resultOf? (Json.write .line result) = some result.merged := by
  have hblank : Text.isBlankText (Json.write .line result) = false := by
    obtain ⟨inner, htext⟩ := h.braces
    rw [htext]
    rfl
  rw [resultOf?, hblank, h.read_trim]
  rfl

theorem resultOf?_lineOf (h : Reportable result) : resultOf? (lineOf result) = some result.merged := by
  rw [lineOf, resultOf?_newline, h.resultOf?_write]

theorem lineOf_not_blank (h : Reportable result) : Text.isBlankText (lineOf result) = false := by
  obtain ⟨inner, htext⟩ := h.braces
  rw [lineOf, htext]
  rfl

theorem read_lineOf (h : Reportable result) : Json.read (lineOf result) = .ok result.merged :=
  Json.read_write_spaces h.short h.shallow (by decide)

end Reportable

/-! ## Reports that were cut off -/

theorem lines_reportOf (results : List Doc) (after : Text) :
    Text.lines (reportOf results ++ after) = results.map lineOf ++ Text.lines after := by
  have hlines : ∀ s ∈ results.map (Json.write .line), .char '\n' ∉ s := by
    intro s hs
    obtain ⟨r, -, rfl⟩ := List.mem_map.1 hs
    exact (newline_not_mem (List.prefix_refl _)).1
  have h := Text.lines_flatten hlines after
  rw [List.map_map] at h
  exact h

theorem return_not_mem (results : List Doc) : .char '\r' ∉ reportOf results := by
  intro hmem
  obtain ⟨line, hline, hmem⟩ := List.mem_flatten.1 hmem
  obtain ⟨r, -, rfl⟩ := List.mem_map.1 hline
  rcases List.mem_append.1 hmem with hmem | hmem
  · exact (newline_not_mem (List.prefix_refl _)).2 hmem
  · simp at hmem

theorem lines_report (results : List Doc) : Text.lines (reportOf results) = results.map lineOf := by
  simpa [Text.lines, Text.linesFrom] using lines_reportOf results []

section
variable {results : List Doc} (hresults : ∀ r ∈ results, Reportable r)
include hresults

theorem filterMap_lineOf : (results.map lineOf).filterMap resultOf? = results.map Doc.merged := by
  rw [List.filterMap_map, ← List.filterMap_eq_map]
  exact List.filterMap_congr fun r hr => (hresults r hr).resultOf?_lineOf

end

end QueryBench.TestSet
