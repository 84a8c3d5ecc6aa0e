import QueryBench.Proofs.Tally.Adding

/-!
# What the counters add up to

Every result is counted in the total and under the headings of how it ended: a success is also
counted under its match. So whatever is counted, the total is the sum of the endings, and the
successes are the sum of the matches. The counters of results stay whole numbers, and that of the
tokens stays a number.

Main definitions: `Tally.headings`, `Tally.Raised`. Main statements: `Tally.raised_of_count` and
`Tally.headings_mem`.
-/
set_option autoImplicit false

namespace QueryBench

/-- Is a document a whole or a floating point number? -/
def Doc.IsNumber (d : Doc) : Prop :=
  (∃ n, d = .int n) ∨ ∃ x, d = .real x

theorem Doc.isNumber_add {a b sum : Doc} (ha : a.IsNumber) (h : a.add b = .ok sum) :
    sum.IsNumber := by
  have hreal {x : Except Fault Float} {f : Float → Float}
      (hx : (x.map fun y => Doc.real (f y)) = .ok sum) : sum.IsNumber := by
    obtain ⟨y, -, rfl⟩ := ok_of_map hx
    exact .inr ⟨_, rfl⟩
  obtain ⟨m, rfl⟩ | ⟨x, rfl⟩ := ha
  · cases b with
    | bool b =>
      cases h
      exact .inl ⟨_, rfl⟩
    | int n =>
      cases h
      exact .inl ⟨_, rfl⟩
    | real y => exact hreal h
    | _ => cases h
  · cases b with
    | bool b => exact hreal h
    | int n => exact hreal h
    | real y =>
      cases h
      exact .inr ⟨_, rfl⟩
    | _ => cases h

namespace Tally

/-- The counters of results, which are all but that of tokens. -/
def resultNames : List Text :=
  names.erase "total_tokens"

/-- Is this a record of all counters, each of them a number? -/
def IsFlat (tally : Doc) : Prop :=
  ∃ fields, tally = .record fields ∧ fields.map Prod.fst = names ∧ ∀ f ∈ fields, f.2.IsNumber

/-- The counters of results went up, each by how often its name is among the keys. -/
structure Raised (keys : List Text) (tally total : Doc) : Prop where
  flat : IsFlat tally → IsFlat total
  counter : ∀ name ∈ resultNames, ∀ n, counter tally name = some n →
    counter total name = some (n + keys.count name)

theorem Raised.refl (tally : Doc) : Raised [] tally tally :=
  ⟨id, fun _ _ n h => by simpa using h⟩

theorem Raised.append {keys more : List Text} {tally between total : Doc}
    (h : Raised keys tally between) (h' : Raised more between total) :
    Raised (keys ++ more) tally total := by
  refine ⟨fun hflat => h'.flat (h.flat hflat), fun name hname n hn => ?_⟩
  rw [h'.counter name hname _ (h.counter name hname n hn), List.count_append]
  simp [Int.add_assoc]

theorem increase_ok {key : Text} {amount tally total : Doc}
    (h : runIn (increase key amount) tally = (.ok (), total)) :
    ∃ fields old new, tally = .record fields ∧ Doc.find? fields key = some old ∧
      old.add amount = .ok new ∧ total = .record (Doc.put fields key new) := by
  obtain ⟨_, _, hget, h⟩ := run_bind_ok h
  cases hget
  obtain ⟨old, _, hfield, h⟩ := run_bind_ok h
  obtain ⟨new, _, hadd, h⟩ := run_bind_ok h
  cases h
  obtain ⟨hold, rfl⟩ := run_lift_ok hfield
  obtain ⟨hnew, rfl⟩ := run_lift_ok hadd
  obtain ⟨fields, rfl, hfind⟩ := Doc.find?_of_field hold
  exact ⟨fields, old, new, rfl, hfind, hnew, rfl⟩

theorem isFlat_put {fields : List (Text × Doc)} {key : Text} {old amount new : Doc}
    (hfind : Doc.find? fields key = some old) (hadd : old.add amount = .ok new)
    (h : IsFlat (.record fields)) : IsFlat (.record (Doc.put fields key new)) := by
  obtain ⟨_, hrecord, hkeys, hnumbers⟩ := h
  cases hrecord
  have hmem := Doc.mem_of_find? hfind
  refine ⟨_, rfl, ?_, Doc.forall_mem_put hnumbers key (Doc.isNumber_add (hnumbers _ hmem) hadd)⟩
  rw [Doc.put_keys_of_mem (List.mem_map_of_mem (f := Prod.fst) hmem), hkeys]

/-- Whenever the computation ends well, there are such keys, and it has raised their counters. -/
def Raises (x : Counting Unit) (keys : Except Fault (List Text)) : Prop :=
  ∀ tally total, runIn x tally = (.ok (), total) →
    ∃ found, keys = .ok found ∧ Raised found tally total

namespace Raises
variable {x y : Counting Unit}

theorem bind {keys : List Text} {more : Except Fault (List Text)} (hx : Raises x (.ok keys))
    (hy : Raises y more) : Raises (do x; y) (more.map (keys ++ ·)) := by
  intro tally total h
  obtain ⟨_, between, hfirst, hrest⟩ := run_bind_ok h
  obtain ⟨_, heq, hraised⟩ := hx tally between hfirst
  obtain ⟨found, rfl, hraised'⟩ := hy between total hrest
  cases heq
  exact ⟨keys ++ found, rfl, hraised.append hraised'⟩

theorem ite {keys more : Except Fault (List Text)} (c : Bool) (hx : Raises x keys)
    (hy : Raises y more) :
    Raises (if c then x else y) (if c then keys else more) := by
  cases c with
  | true => exact hx
  | false => exact hy

theorem lift {α : Type} {e : Except Fault α} {f : α → Counting Unit}
    {g : α → Except Fault (List Text)} (h : ∀ a, Raises (f a) (g a)) :
    Raises (liftM e >>= f) (e >>= g) := by
  intro tally total hrun
  obtain ⟨a, _, hlift, hrest⟩ := run_bind_ok hrun
  obtain ⟨rfl, rfl⟩ := run_lift_ok hlift
  exact h a tally total hrest

theorem skip {α : Type} {e : Except Fault α} {f : α → Counting Unit}
    {keys : Except Fault (List Text)} (h : ∀ a, Raises (f a) keys) :
    Raises (liftM e >>= f) keys := by
  intro tally total hrun
  obtain ⟨a, _, hlift, hrest⟩ := run_bind_ok hrun
  obtain ⟨-, rfl⟩ := run_lift_ok hlift
  exact h a tally total hrest

theorem bump (key : Text) : Raises (bump key) (.ok [key]) := by
  intro tally total h
  obtain ⟨fields, old, new, rfl, hfind, hadd, rfl⟩ := increase_ok h
  refine ⟨[key], rfl, isFlat_put hfind hadd, fun name _ n hn => ?_⟩
  by_cases hname : name = key
  · subst hname
    obtain ⟨_, hrecord, hold⟩ := find?_of_counter hn
    cases hrecord
    cases hfind.symm.trans hold
    cases hadd
    rw [counter_of_find? ((Doc.find?_put fields name name _).trans (if_pos rfl))]
    simp
  · rw [counter_put_of_ne hname, hn]
    simp [Ne.symm hname]

theorem tokens (amount : Doc) : Raises (increase "total_tokens" amount) (.ok []) := by
  intro tally total h
  obtain ⟨fields, old, new, rfl, hfind, hadd, rfl⟩ := increase_ok h
  have hother : ∀ name ∈ resultNames, name ≠ "total_tokens" := by decide
  refine ⟨[], rfl, isFlat_put hfind hadd, fun name hname n hn => ?_⟩
  rw [counter_put_of_ne (hother name hname), hn]
  simp

end Raises

/-! ## Headings -/

/-- The headings of a match. -/
def matchHeadings (name : Doc) : List Text :=
  if name.isText Match.exact.label then ["exact_match", "success"]
  else if name.isText Match.strict.label then ["strict_match", "success"]
  else if name.isText Match.soft.label then ["soft_match", "success"]
  else if name.isText Match.superSoft.label then ["super_soft_match", "success"]
  else ["wrong"]

/-- The headings under which a result is counted besides the total. -/
def headings (result : Doc) : Except Fault (List Text) := do
  let status ← result.member "status"
  if status.isText "filtered_by_router" then return ["router_filtered"]
  else if status.isText "completed" then
    if ← hasCheck result then
      let check ← (← result.field "steps").field "evaluator"
      let name ← check.member "match_type"
      return matchHeadings name
    else return ["errors"]
  else return ["errors"]

theorem raises_recordMatch (name : Doc) : Raises (recordMatch name) (.ok (matchHeadings name)) := by
  have hmatch (key : Text) : Raises (do bump key; bump "success") (.ok [key, "success"]) :=
    (Raises.bump key).bind (.bump "success")
  simp only [recordMatch, matchHeadings, apply_ite Except.ok]
  exact .ite _ (hmatch _) (.ite _ (hmatch _) (.ite _ (hmatch _) (.ite _ (hmatch _) (.bump _))))

/-- A result is counted once in the total, and under its headings. -/
theorem raises_record (result : Doc) :
    Raises (record result) ((headings result).map ("total" :: ·)) := by
  have hmatch (amount name : Doc) :
      Raises (do increase "total_tokens" amount; recordMatch name) (.ok (matchHeadings name)) :=
    (Raises.tokens amount).bind (raises_recordMatch name)
  refine (Raises.bump "total").bind (.lift fun status => .ite _ (.bump _) (.ite _ ?_ (.bump _)))
  refine .lift fun checked => .ite _ ?_ (.bump _)
  refine .lift fun steps => .lift fun check => .lift fun name => ?_
  exact .skip fun metrics => .skip fun amount => hmatch amount name

theorem raised_of_count {tally result total : Doc} (h : count tally result = .ok total) :
    ∃ keys, headings result = .ok keys ∧ Raised ("total" :: keys) tally total := by
  have hrun : runIn (record result) tally = (.ok (), total) := by
    unfold count at h
    split at h
    next hrun =>
      cases h
      exact hrun
    next => cases h
  obtain ⟨_, hkeys, hraised⟩ := raises_record result tally total hrun
  obtain ⟨keys, hheadings, rfl⟩ := ok_of_map hkeys
  exact ⟨keys, hheadings, hraised⟩

/-! ## Sums -/

/-- The headings of the successes. -/
def matchKinds : List (List Text) :=
  [["exact_match", "success"], ["strict_match", "success"], ["soft_match", "success"],
    ["super_soft_match", "success"]]

/-- The headings that there are. -/
def kinds : List (List Text) :=
  ["router_filtered"] :: ["errors"] :: ["wrong"] :: matchKinds

/-- A match counts as wrong exactly if it is no success. -/
theorem matchHeadings_cases (name : Doc) :
    name.isOneOf Match.successes = true ∧ matchHeadings name ∈ matchKinds ∨
      name.isOneOf Match.successes = false ∧ matchHeadings name = ["wrong"] := by
  have hsuccess {label : Text} (hmem : label ∈ Match.successes) (hname : name.isText label = true) :
      name.isOneOf Match.successes = true := List.any_eq_true.2 ⟨label, hmem, hname⟩
  unfold matchHeadings
  by_cases hexact : name.isText Match.exact.label = true
  · rw [if_pos hexact]
    exact .inl ⟨hsuccess (by decide) hexact, by decide⟩
  by_cases hstrict : name.isText Match.strict.label = true
  · rw [if_neg hexact, if_pos hstrict]
    exact .inl ⟨hsuccess (by decide) hstrict, by decide⟩
  by_cases hsoft : name.isText Match.soft.label = true
  · rw [if_neg hexact, if_neg hstrict, if_pos hsoft]
    exact .inl ⟨hsuccess (by decide) hsoft, by decide⟩
  by_cases hsuperSoft : name.isText Match.superSoft.label = true
  · rw [if_neg hexact, if_neg hstrict, if_neg hsoft, if_pos hsuperSoft]
    exact .inl ⟨hsuccess (by decide) hsuperSoft, by decide⟩
  · rw [if_neg hexact, if_neg hstrict, if_neg hsoft, if_neg hsuperSoft]
    refine .inr ⟨?_, rfl⟩
    simp [Doc.isOneOf, Match.successes, hexact, hstrict, hsoft, hsuperSoft]

theorem matchHeadings_mem (name : Doc) : matchHeadings name ∈ kinds := by
  obtain ⟨-, hmem⟩ | ⟨-, hwrong⟩ := matchHeadings_cases name
  · exact .tail _ (.tail _ (.tail _ hmem))
  · rw [hwrong]
    decide

theorem headings_mem {result : Doc} {keys : List Text} (h : headings result = .ok keys) :
    keys ∈ kinds := by
  obtain ⟨status, -, h⟩ := ok_of_bind h
  split at h
  · cases h
    decide
  split at h
  · obtain ⟨checked, -, h⟩ := ok_of_bind h
    cases checked with
    | false =>
      cases h
      decide
    | true =>
      obtain ⟨steps, -, h⟩ := ok_of_bind h
      obtain ⟨check, -, h⟩ := ok_of_bind h
      obtain ⟨name, -, h⟩ := ok_of_bind h
      cases h
      exact matchHeadings_mem name
  · cases h
    decide

/-- The total is the sum of the endings, and the successes are the sum of the matches. -/
structure AddsUp (count : Text → Nat) : Prop where
  total : count "total" = count "success" + count "wrong" + count "errors" + count "router_filtered"
  success : count "success" =
    count "exact_match" + count "strict_match" + count "soft_match" + count "super_soft_match"

instance (count : Text → Nat) : Decidable (AddsUp count) :=
  decidable_of_iff (_ ∧ _) ⟨fun h => ⟨h.1, h.2⟩, fun h => ⟨h.total, h.success⟩⟩

/-- How often each counter goes up for results with these headings. -/
def occurrences (all : List (List Text)) (name : Text) : Nat :=
  (all.flatMap fun keys => Text.ofString "total" :: keys).count name

theorem occurrences_cons (keys : List Text) (all : List (List Text)) (name : Text) :
    occurrences (keys :: all) name =
      (Text.ofString "total" :: keys).count name + occurrences all name := by
  rw [occurrences, List.flatMap_cons, List.count_append]
  rfl

theorem occurrences_total {all : List (List Text)} (h : ∀ keys ∈ all, keys ∈ kinds) :
    occurrences all "total" = all.length := by
  have hkinds : ∀ keys ∈ kinds,
      (Text.ofString "total" :: keys).count (Text.ofString "total") = 1 := by decide
  induction all with
  | nil => rfl
  | cons keys all ih =>
    obtain ⟨hkeys, hall⟩ := List.forall_mem_cons.1 h
    rw [occurrences_cons, hkinds keys hkeys, ih hall, List.length_cons]
    omega

theorem addsUp_occurrences {all : List (List Text)} (h : ∀ keys ∈ all, keys ∈ kinds) :
    AddsUp (occurrences all) := by
  have hkinds : ∀ keys ∈ kinds, AddsUp fun name => (Text.ofString "total" :: keys).count name := by
    decide
  induction all with
  | nil => exact ⟨rfl, rfl⟩
  | cons keys all ih =>
    obtain ⟨hkeys, hall⟩ := List.forall_mem_cons.1 h
    obtain ⟨htotal, hsuccess⟩ := hkinds keys hkeys
    obtain ⟨htotal', hsuccess'⟩ := ih hall
    constructor
    · simp only [occurrences_cons]
      omega
    · simp only [occurrences_cons]
      omega

end Tally
end QueryBench
