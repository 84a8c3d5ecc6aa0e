import QueryBench.Proofs.Tally

/-!
# Counters that are whole numbers

Counting a result adds whole numbers to counters, one to the total and one to the counter of how the
result ended.

Main definitions: `Tally.counter`, `Tally.IsWhole`, and `Tally.Adds`, which says what counting adds to
each counter. Main statement: `Tally.countedOnce_toDoc`.
-/
set_option autoImplicit false

namespace QueryBench.Tally

/-- The names of all counters. -/
def names : List Text :=
  Text.ofStrings ["total", "success", "exact_match", "strict_match", "soft_match", "super_soft_match",
    "wrong", "errors", "router_filtered", "total_tokens"]

/-- The counters of the ways in which a result can end. -/
def endings : List Text :=
  Text.ofStrings ["success", "wrong", "errors", "router_filtered"]

/-- The value of a counter, where it is a whole number. -/
def counter (tally : Doc) (name : Text) : Option Int :=
  match tally.field name with
  | .ok (.int n) => some n
  | _ => none

/-- Is every counter a whole number? -/
def IsWhole (tally : Doc) : Prop :=
  ∀ name ∈ names, (counter tally name).isSome

instance (tally : Doc) : Decidable (IsWhole tally) :=
  inferInstanceAs (Decidable (∀ name ∈ names, (counter tally name).isSome))

theorem isWhole_start : IsWhole start := by decide

/-- Whole counters go up by these amounts, and no fault is met. -/
def Adds (x : Counting Unit) (amount : Text → Int) : Prop :=
  ∀ tally, IsWhole tally → ∃ tally', runIn x tally = (.ok (), tally') ∧
    ∀ name ∈ names, counter tally' name = (counter tally name).map (· + amount name)

theorem find?_of_counter {tally : Doc} {name : Text} {n : Int} (h : counter tally name = some n) :
    ∃ fields, tally = .record fields ∧ Doc.find? fields name = some (.int n) := by
  unfold counter at h
  split at h
  next m hfield =>
    cases h
    exact Doc.find?_of_field hfield
  next => cases h

theorem counter_of_find? {fields : List (Text × Doc)} {name : Text} {n : Int}
    (h : Doc.find? fields name = some (.int n)) : counter (.record fields) name = some n := by
  rw [counter, Doc.field, h]

theorem counter_put_of_ne {fields : List (Text × Doc)} {key name : Text} (h : name ≠ key)
    (value : Doc) :
    counter (.record (Doc.put fields key value)) name = counter (.record fields) name := by
  have hfield :
      Doc.field (.record (Doc.put fields key value)) name = Doc.field (.record fields) name := by
    rw [Doc.field, Doc.find?_put, if_neg h, Doc.field]
  rw [counter, hfield, counter]

namespace Adds
variable {x y : Counting Unit} {f g : Text → Int}

theorem isWhole {tally tally' : Doc} (h : IsWhole tally)
    (hadds : ∀ name ∈ names, counter tally' name = (counter tally name).map (· + f name)) :
    IsWhole tally' := by
  intro name hname
  rw [hadds name hname, Option.isSome_map]
  exact h name hname

theorem bind (hx : Adds x f) (hy : Adds y g) : Adds (do x; y) fun name => f name + g name := by
  intro tally htally
  obtain ⟨tally₁, hrun₁, hadds₁⟩ := hx tally htally
  obtain ⟨tally₂, hrun₂, hadds₂⟩ := hy tally₁ (isWhole htally hadds₁)
  refine ⟨tally₂, ?_, fun name hname => ?_⟩
  · rw [run_bind, hrun₁]
    exact hrun₂
  · rw [hadds₂ name hname, hadds₁ name hname, Option.map_map]
    exact congrArg (Option.map · _) (funext fun n => Int.add_assoc n _ _)

theorem increase {key : Text} (hkey : key ∈ names) (n : Int) :
    Adds (Tally.increase key (.int n)) fun name => if name = key then n else 0 := by
  intro tally htally
  obtain ⟨old, hold⟩ := Option.isSome_iff_exists.1 (htally key hkey)
  obtain ⟨fields, rfl, hfind⟩ := find?_of_counter hold
  have hfield : Doc.field (.record fields) key = .ok (.int old) := by rw [Doc.field, hfind]
  refine ⟨.record (Doc.put fields key (.int (old + n))), ?_, fun name _ => ?_⟩
  · show runIn (do
      let old ← liftM (Doc.field (.record fields) key)
      let new ← liftM (old.add (.int n))
      set (setField (.record fields) key new) : Counting Unit) (.record fields) = _
    rw [hfield]
    rfl
  · by_cases hname : name = key
    · subst hname
      rw [counter_of_find? ((Doc.find?_put fields name name _).trans (if_pos rfl)), hold]
      simp
    · rw [counter_put_of_ne hname]
      simp [hname]

theorem bump {key : Text} (hkey : key ∈ names) :
    Adds (Tally.bump key) fun name => if name = key then 1 else 0 :=
  increase hkey 1

end Adds

/-! ## Results -/

/-- Do these amounts count `total` results in all, and one with this ending? -/
def CountsOne (total : Int) (ending : Text) (amount : Text → Int) : Prop :=
  ∀ name ∈ Text.ofString "total" :: endings,
    amount name = if name = "total" then total else if name = ending then 1 else 0

instance (total : Int) (ending : Text) (amount : Text → Int) :
    Decidable (CountsOne total ending amount) :=
  inferInstanceAs (Decidable (∀ name ∈ Text.ofString "total" :: endings, _))

/-- A match has a counter of its own besides the one of successes. -/
theorem adds_success {key : Text} (hkey : key ∈ names)
    (hcounts : CountsOne 0 "success" fun name =>
      (if name = key then 1 else 0) + if name = "success" then 1 else 0) :
    ∃ ending ∈ endings, ∃ amount,
      Adds (do bump key; bump "success") amount ∧ CountsOne 0 ending amount :=
  ⟨"success", by decide, _, (Adds.bump hkey).bind (Adds.bump (by decide)), hcounts⟩

theorem adds_recordMatch (name : Text) : ∃ ending ∈ endings, ∃ amount,
    Adds (recordMatch (.text name)) amount ∧ CountsOne 0 ending amount := by
  unfold recordMatch
  split
  · exact adds_success (by decide) (by decide)
  split
  · exact adds_success (by decide) (by decide)
  split
  · exact adds_success (by decide) (by decide)
  split
  · exact adds_success (by decide) (by decide)
  · exact ⟨"wrong", by decide, _, Adds.bump (by decide), by decide⟩

/-- A result whose tokens are a whole number counts once, and for one ending. -/
theorem adds_recordKind {kind : Kind}
    (h : ∀ name tokens, kind = .completed name tokens → ∃ n, tokens = .int n) :
    ∃ ending ∈ endings, ∃ amount, Adds (recordKind kind) amount ∧ CountsOne 1 ending amount := by
  have htotal : Adds (bump "total") fun name => if name = "total" then 1 else 0 := .bump (by decide)
  cases kind with
  | filtered =>
    exact ⟨"router_filtered", by decide, _, htotal.bind (.bump (by decide)), by decide⟩
  | failed => exact ⟨"errors", by decide, _, htotal.bind (.bump (by decide)), by decide⟩
  | completed name tokens =>
    obtain ⟨n, rfl⟩ := h name tokens rfl
    obtain ⟨ending, hending, amount, hadds, hcounts⟩ := adds_recordMatch name
    refine ⟨ending, hending, _, htotal.bind ((Adds.increase (by decide) n).bind hadds),
      fun key hkey => ?_⟩
    -- tokens are neither counted in the total nor an ending
    have htokens : ∀ key ∈ Text.ofString "total" :: endings, key ≠ "total_tokens" := by decide
    rw [if_neg (htokens key hkey), hcounts key hkey]
    split <;> omega

/-- Does counting a result meet no fault, and add one to the total and to one ending? -/
def CountedOnce (result : Doc) : Prop :=
  ∀ tally, IsWhole tally → ∃ tally', count tally result = .ok tally' ∧ IsWhole tally' ∧
    ∃ ending ∈ endings, ∀ name ∈ Text.ofString "total" :: endings, counter tally' name =
      (counter tally name).map (· + if name = "total" ∨ name = ending then 1 else 0)

theorem countedOnce_of_isKind {result : Doc} {kind : Kind} (hkind : IsKind result kind)
    (htokens : ∀ name tokens, kind = .completed name tokens → ∃ n, tokens = .int n) :
    CountedOnce result := by
  intro tally htally
  obtain ⟨ending, hending, amount, hadds, hcounts⟩ := adds_recordKind htokens
  obtain ⟨tally', hrun, hcounters⟩ := hadds tally htally
  have hnames : ∀ name ∈ Text.ofString "total" :: endings, name ∈ names := by decide
  refine ⟨tally', ?_, Adds.isWhole htally hcounters, ending, hending, fun name hname => ?_⟩
  · have hrun : (recordKind kind).run.run tally = (.ok (), tally') := hrun
    rw [count_eq hkind, countKind, hrun]
  · rw [hcounters name (hnames name hname), hcounts name hname]
    by_cases htotal : name = "total"
    · rw [if_pos htotal, if_pos (.inl htotal)]
    · rw [if_neg htotal, if_congr (or_iff_right htotal) rfl rfl]

/-- An outcome whose tokens are a whole number is counted once. -/
theorem countedOnce_toDoc {o : Outcome} {n : Int} (htokens : o.tokens = .int n) :
    CountedOnce o.toDoc := by
  refine countedOnce_of_isKind (isKind_toDoc o) fun name tokens hkind => ⟨n, ?_⟩
  unfold kindOf at hkind
  split at hkind <;> cases hkind
  exact htokens

end QueryBench.Tally
