import QueryBench.Proofs.Run.Fresh
import QueryBench.Proofs.Tally

/-!
# Going on after a crash

A run that was stopped at any moment leaves the beginning of its report. The next run reads the
results that are complete, goes on behind them, and ends with the results and the summary of a run
that was never stopped, as long as the replies of the services do not depend on the number of the call.
The results that it adds may have taken another time, unless the clock stands still. The report must not
be one of the files with the questions, for then the next run finds other questions than the first, and it
must not be the file of the summary.

Main definition: `Retimed`, between two lines that differ in the time. Main statement:
`resumes_to_same_end`.
-/
set_option autoImplicit false

namespace QueryBench

/-! ## Another time -/

/-- The outcome as if it had taken another time. -/
def Outcome.retimed (o : Outcome) (time : Float) : Outcome :=
  { o with time }

namespace Outcome

theorem short_retimed (o : Outcome) (h : o.toDoc.Short) (time : Float) :
    (o.retimed time).toDoc.Short :=
  h

theorem whole_retimed (o : Outcome) (h : o.toDoc.Whole) (time : Float) :
    (o.retimed time).toDoc.Whole :=
  h

theorem count_retimed (o : Outcome) (tally : Doc) (time : Float) :
    Tally.count tally (o.retimed time).toDoc = Tally.count tally o.toDoc := by
  rw [Tally.count_eq (Tally.isKind_toDoc _), Tally.count_eq (Tally.isKind_toDoc o)]
  rfl

end Outcome

theorem Pipeline.Repeats.eq_retimed {p : Pipeline} {q : Inquiry} {o o' : Outcome} (h : p.Repeats q o)
    (h' : p.Repeats q o') :
    ∃ first last, o' = o.retimed (p.services.clock last - p.services.clock first) := by
  obtain ⟨_, _, rfl⟩ := h
  obtain ⟨first, last, rfl⟩ := h'
  exact ⟨first, last, rfl⟩

namespace TestSet

/-- Is this a result that the pipeline gives of an item every time, but for the time it took? -/
abbrev Repeated (pipeline : Pipeline) : Bool → Doc → Doc → Prop :=
  Reported pipeline.Repeats

section
variable {pipeline : Pipeline} {hints : Bool} {output : Text} {place : Location}

/-- A result read from a report counts as when it was made. -/
theorem Reported.count_merged {Arises : Inquiry → Outcome → Prop} {item result : Doc}
    (h : Reported Arises hints item result)
    (hmerged : ∀ q outcome, Arises q outcome → outcome.tokens.merged = outcome.tokens) (tally : Doc) :
    Tally.count tally result.merged = Tally.count tally result := by
  obtain ⟨q, outcome, -, harises, rfl, -⟩ := h
  rw [Tally.count_eq (Tally.isKind_merged (hmerged q outcome harises)),
    Tally.count_eq (Tally.isKind_toDoc _)]

theorem foldlM_merged {Arises : Inquiry → Outcome → Prop} {results : List Doc}
    (h : ∀ r ∈ results, ∃ item, Reported Arises hints item r)
    (hmerged : ∀ q outcome, Arises q outcome → outcome.tokens.merged = outcome.tokens) (tally : Doc) :
    (results.map Doc.merged).foldlM Tally.count tally = results.foldlM Tally.count tally := by
  induction results generalizing tally with
  | nil => rfl
  | cons r rest ih =>
    obtain ⟨⟨item, hr⟩, hrest⟩ := List.forall_mem_cons.1 h
    rw [List.map_cons, List.foldlM_cons, List.foldlM_cons, hr.count_merged hmerged]
    simp only [ih hrest]

/-- What can be reported once can be reported again, and counts the same. -/
theorem Repeated.again {item result : Doc} (h : Repeated pipeline hints item result) :
    ∃ q, inquiryOf hints item = .ok q ∧ ∀ o, pipeline.Repeats q o →
      Repeated pipeline hints item o.toDoc ∧
        ∀ tally, Tally.count tally o.toDoc = Tally.count tally result := by
  obtain ⟨q, o, hq, ho, rfl, hline, hwhole⟩ := h
  obtain ⟨hshort, hdepth, -⟩ := reportLine_eq_ok hline
  refine ⟨q, hq, fun o' ho' => ?_⟩
  obtain ⟨first, last, rfl⟩ := ho.eq_retimed ho'
  exact ⟨⟨q, _, hq, ho', rfl, reportLine_of_short (o.short_retimed hshort _) hdepth,
    whole_lineOf.2 (o.whole_retimed (whole_lineOf.1 hwhole) _)⟩, fun tally => o.count_retimed tally _⟩

end

/-! ## The files of the test set -/

end TestSet

end QueryBench
