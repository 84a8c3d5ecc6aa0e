import Mathlib.Data.List.Count
import Mathlib.Data.List.Forall2
import QueryBench.Proofs.Vector.Laws
import QueryBench.Vector.Index

/-!
# What building a store leaves behind

Each text column gets its collection anew, so the rest of a store stays as it is and building twice
is building once. What a store holds matters only where a collection is deleted, made or filled; each
of these goes the same way again, by the laws of backends. Hence the change that a build makes is
fixed before the store is known: it places some collections, one after the other.

Main definitions: `Changes`, the change a computation makes wherever it starts, and `Fills`, which
says what the collection of a column holds. Main statement: `build_refills`.
-/
set_option autoImplicit false

namespace QueryBench

/-! ## The parts of a column name -/

namespace Text

theorem splitFrom_glyph (g : Glyph) (piece s : Text) :
    splitFrom [g] 0 piece s = List.splitOnPPrepend (· == g) s piece := by
  induction s generalizing piece with
  | nil => rw [splitFrom, List.splitOnPPrepend_nil]
  | cons h s ih =>
    rw [splitFrom, List.splitOnPPrepend_cons_eq_if, List.isPrefixOf_cons_cons]
    simp only [List.isPrefixOf_nil_left, Bool.and_true, List.length_cons, List.length_nil]
    rw [BEq.comm, ih, ih, List.splitOnP_eq_splitOnPPrepend]

theorem splitOn_glyph (g : Glyph) (s : Text) : splitOn [g] s = List.splitOn g s :=
  splitFrom_glyph g [] s

/-- There is one piece more than there are places to split at. -/
theorem length_splitOn (g : Glyph) (s : Text) : (List.splitOn g s).length = s.count g + 1 := by
  induction s with
  | nil => rfl
  | cons h s ih =>
    rw [List.splitOn_cons_eq_if_modifyHead, List.count_cons]
    by_cases heq : (h == g) = true
    · rw [if_pos heq, if_pos heq, List.length_cons, ih]
    · rw [if_neg heq, if_neg heq, List.length_modifyHead, ih]

theorem splitOn_eq_pair_iff {g : Glyph} {s first second : Text} :
    splitOn [g] s = [first, second] ↔ s = first ++ g :: second ∧ g ∉ first ∧ g ∉ second := by
  rw [splitOn_glyph]
  constructor
  · intro h
    have hs : [g].intercalate (List.splitOn g s) = s := List.intercalate_splitOn g
    rw [h, List.intercalate_cons_cons, List.intercalate_singleton, List.append_assoc] at hs
    have hcount := length_splitOn g s
    rw [h, ← hs, List.count_append, List.singleton_append, List.count_cons_self] at hcount
    simp only [List.length_cons, List.length_nil] at hcount
    exact ⟨hs.symm, List.count_eq_zero.1 (by omega), List.count_eq_zero.1 (by omega)⟩
  · rintro ⟨rfl, hfirst, hsecond⟩
    rw [List.splitOn_append_cons_self_of_not_mem hfirst, List.splitOn_eq_singleton hsecond]

end Text

namespace Vector

/-- A full column name is that of a table and that of a column, with the only dot between them. -/
theorem splitName_eq_ok_iff {name : Doc} {table column : Text} :
    splitName name = .ok (table, column) ↔
      name = .text (table ++ .char '.' :: column) ∧ .char '.' ∉ table ∧ .char '.' ∉ column := by
  constructor
  · intro h
    obtain ⟨s, hs, h⟩ := ok_of_bind h
    cases name with
    | text t =>
      obtain rfl : t = s := Except.ok.inj hs
      -- Any other number of pieces is a fault.
      rcases hpieces : Text.splitOn "." t with _ | ⟨first, _ | ⟨second, _ | ⟨third, rest⟩⟩⟩ <;>
        rw [hpieces] at h <;> cases h
      obtain ⟨rfl, hfree⟩ := Text.splitOn_eq_pair_iff.1 hpieces
      exact ⟨rfl, hfree⟩
    | _ => cases hs
  · rintro ⟨rfl, hfree⟩
    have hpieces : Text.splitOn "." (table ++ .char '.' :: column) = [table, column] :=
      Text.splitOn_eq_pair_iff.2 ⟨rfl, hfree⟩
    rw [splitName, Doc.textFor, ok_bind, hpieces]
    rfl

/-! ## Batches -/

/-- What is stored of an entry. -/
def Entry.item (e : Entry) : Item where
  id := e.value
  document := e.description
  metadata := .record [("db_value", .text e.value), ("original", e.description)]

/-- The lists of a batch go together: there are as many documents as ids, and beside each id, one
by one, its own text is stored as the value. -/
structure Batch.Aligned (batch : Batch) : Prop where
  documents : batch.documents.length = batch.ids.length
  values : List.Forall₂ (fun metadata id => metadata.field "db_value" = .ok (.text id))
    batch.metadatas batch.ids

theorem Batch.Aligned.push {batch : Batch} (h : batch.Aligned) (e : Entry) :
    (batch.push e).Aligned where
  documents := by simp [Batch.push, h.documents]
  values := List.rel_append h.values (.cons rfl .nil)

theorem Batch.items_push {batch : Batch} (h : batch.Aligned) (e : Entry) :
    (batch.push e).items = batch.items ++ [e.item] := by
  have hmetadatas := h.values.length_eq
  rw [Batch.items, Batch.push, List.zip_append (h.documents.trans hmetadatas.symm),
    List.zip_append (by simp [h.documents, hmetadatas]), List.map_append]
  rfl

theorem Batch.foldl_push {batch : Batch} (h : batch.Aligned) (entries : List Entry) :
    (entries.foldl Batch.push batch).Aligned ∧
      (entries.foldl Batch.push batch).items = batch.items ++ entries.map Entry.item := by
  induction entries generalizing batch with
  | nil => exact ⟨h, by simp⟩
  | cons e entries ih =>
    obtain ⟨haligned, hitems⟩ := ih (h.push e)
    rw [List.foldl_cons, List.map_cons]
    exact ⟨haligned, by rw [hitems, items_push h, List.append_assoc, List.singleton_append]⟩

theorem Batch.aligned_empty : (Batch.mk [] [] []).Aligned :=
  ⟨rfl, .nil⟩

theorem Batch.aligned_ofEntries (entries : List Entry) : (Batch.ofEntries entries).Aligned :=
  (foldl_push aligned_empty entries).1

theorem Batch.items_ofEntries (entries : List Entry) :
    (Batch.ofEntries entries).items = entries.map Entry.item :=
  (foldl_push aligned_empty entries).2

/-! ## Placing collections -/

/-- The collections with one at their end, in the place of those of its name. -/
def Contents.place (contents : Contents) (c : Text × List Item) : Contents :=
  contents.filter (·.1 ≠ c.1) ++ [c]

/-- The collections whose names are not among `names`. -/
def Contents.without (contents : Contents) (names : List Text) : Contents :=
  contents.filter (·.1 ∉ names)

/-- What was there before keeps its order, before all that is placed. -/
theorem foldl_place_append (contents others : Contents) (built : List (Text × List Item)) :
    built.foldl Contents.place (others ++ contents) =
      others.without (built.map Prod.fst) ++ built.foldl Contents.place contents := by
  induction built generalizing contents others with
  | nil => simp [Contents.without]
  | cons c built ih =>
    have hplace : (others ++ contents).place c = others.without [c.1] ++ contents.place c := by
      simp [Contents.place, Contents.without]
    rw [List.foldl_cons, List.foldl_cons, hplace, ih]
    simp only [Contents.without, List.filter_filter, List.map_cons,
      List.mem_cons, List.not_mem_nil, or_false, not_or, Bool.decide_and, Bool.and_comm]

theorem foldl_place (contents : Contents) (built : List (Text × List Item)) :
    built.foldl Contents.place contents =
      contents.without (built.map Prod.fst) ++ built.foldl Contents.place [] := by
  have h := foldl_place_append [] contents built
  rwa [List.append_nil] at h

/-- Collections of different names stay in the order in which they are placed. -/
theorem foldl_place_nil {built : List (Text × List Item)} (h : (built.map Prod.fst).Nodup) :
    built.foldl Contents.place [] = built := by
  induction built with
  | nil => rfl
  | cons c built ih =>
    obtain ⟨hc, hbuilt⟩ := List.nodup_cons.1 h
    rw [List.foldl_cons, foldl_place, ih hbuilt]
    simp [Contents.place, Contents.without, hc]

theorem without_place {c : Text × List Item} {names : List Text} (h : c.1 ∈ names)
    (contents : Contents) : (contents.place c).without names = contents.without names := by
  rw [Contents.place, Contents.without, List.filter_append, List.filter_filter,
    List.filter_cons_of_neg (by simpa using h), List.filter_nil, List.append_nil]
  refine List.filter_congr fun d _ => ?_
  by_cases hd : d.1 = c.1
  · simp [hd, h]
  · simp [hd]

theorem without_foldl_place {built : List (Text × List Item)} {names : List Text}
    (h : ∀ c ∈ built, c.1 ∈ names) (contents : Contents) :
    (built.foldl Contents.place contents).without names = contents.without names := by
  induction built generalizing contents with
  | nil => rfl
  | cons c built ih =>
    obtain ⟨hc, hbuilt⟩ := List.forall_mem_cons.1 h
    rw [List.foldl_cons, ih hbuilt, without_place hc]

/-- To place collections twice is to place them once. -/
theorem foldl_place_twice (contents : Contents) (built : List (Text × List Item)) :
    built.foldl Contents.place (built.foldl Contents.place contents) =
      built.foldl Contents.place contents := by
  rw [foldl_place, without_foldl_place fun c hc => List.mem_map_of_mem hc, ← foldl_place]

/-! ## Calls -/

/-- Do the lists of a batch go together, if the call adds one? -/
def StoreCall.Aligned : StoreCall → Prop
  | .add _ batch => batch.Aligned
  | _ => True

section Calls
variable {σ : Type} {b : Backend σ} {s t : BuildState σ} {c : StoreCall} {store : σ}

/-- From `s` to `t` further calls were carried out, which are aligned. -/
def Extends (s t : BuildState σ) : Prop :=
  ∃ made, t.calls = s.calls ++ made ∧ ∀ c ∈ made, c.Aligned

theorem Extends.of_eq (h : t.calls = s.calls) : Extends s t :=
  ⟨[], by rw [h, List.append_nil], fun _ h => by cases h⟩

theorem Extends.trans {u : BuildState σ} (h : Extends s t) (h' : Extends t u) : Extends s u := by
  obtain ⟨first, hfirst, haligned⟩ := h
  obtain ⟨second, hsecond, haligned'⟩ := h'
  exact ⟨first ++ second, by rw [hsecond, hfirst, List.append_assoc],
    List.forall_mem_append.2 ⟨haligned, haligned'⟩⟩

theorem run_call (h : b.answer c s.store = (.ok (), store)) :
    runIn (call b c) s = (.ok (), { s with calls := s.calls ++ [c], store }) := by
  simp only [runIn, call, ExceptT.run, ExceptT.mk, StateT.run, h]

theorem run_call_refused {fault : Fault} (h : b.answer c s.store = (.error fault, store)) :
    runIn (call b c) s = (.error fault, { s with store }) := by
  simp only [runIn, call, ExceptT.run, ExceptT.mk, StateT.run, h]

/-- A call was carried out or refused. -/
theorem call_cases (b : Backend σ) (c : StoreCall) (s : BuildState σ) :
    (∃ store, b.answer c s.store = (.ok (), store) ∧
      runIn (call b c) s = (.ok (), { s with calls := s.calls ++ [c], store })) ∨
    ∃ fault store, b.answer c s.store = (.error fault, store) ∧
      runIn (call b c) s = (.error fault, { s with store }) := by
  rcases h : b.answer c s.store with ⟨fault | u, store⟩
  · exact .inr ⟨fault, store, rfl, run_call_refused h⟩
  · exact .inl ⟨store, rfl, run_call h⟩

theorem not_mem_names {name : Text} {s t : σ} (h : b.contents t = (b.contents s).filter (·.1 ≠ name)) :
    name ∉ b.names t := by
  rw [← b.fst_contents, h]
  intro hmem
  obtain ⟨c, hc, rfl⟩ := List.mem_map.1 hmem
  simpa using (List.mem_filter.1 hc).2

/-- To make a collection anew is to make it where there is none of its name. -/
theorem run_recreate (laws : b.Lawful) (name : Text) (t : BuildState σ) : ∃ u, Extends t u ∧
    b.contents u.store = (b.contents t.store).filter (·.1 ≠ name) ∧
    runIn (recreate b name) t = runIn (call b (.create name)) u := by
  have hrun : runIn (recreate b name) t = _ := run_bind _ _ t
  rw [run_tryCatch, run_bind] at hrun
  rcases call_cases b (.delete name) t with ⟨store, hanswer, hcall⟩ | ⟨fault, store, hanswer, hcall⟩
  · rw [hcall] at hrun
    exact ⟨_, ⟨[.delete name], rfl, by simp [StoreCall.Aligned]⟩, laws.contents_delete hanswer, hrun⟩
  · rw [hcall] at hrun
    refine ⟨{ t with store }, .of_eq rfl, ?_, hrun⟩
    have habsent : name ∉ b.names t.store := by
      rw [← laws.deletable, hanswer]
      exact Bool.false_ne_true
    rw [laws.contents_refused hanswer]
    refine (List.filter_eq_self.2 fun c hc => ?_).symm
    have hne : c.1 ≠ name := by
      rintro rfl
      exact habsent (Backend.mem_contents.1 hc).1
    simpa using hne

end Calls

/-! ## Changes that do not depend on the store -/

section Changes
variable {σ α β : Type} {b : Backend σ}

/-- Where the computation ends well in a store of which `M` holds, it does so in every such store,
with the same result and with the same change of the contents. `R` holds of the result and the
change. -/
def Changes (b : Backend σ) (M : Contents → Prop) (act : Building σ α)
    (R : α → (Contents → Contents) → Prop) : Prop :=
  ∀ s a s', M (b.contents s.store) → runIn act s = (.ok a, s') → ∃ change, R a change ∧
    ∀ t, M (b.contents t.store) → ∃ t', runIn act t = (.ok a, t') ∧ Extends t t' ∧
      b.contents t'.store = change (b.contents t.store)

namespace Changes
variable {x : Building σ α} {f : α → Building σ β} {P : α → (Contents → Contents) → Prop}
  {Q : β → (Contents → Contents) → Prop} {M N : Contents → Prop}

theorem of_run {a : α} {change : Contents → Contents}
    (hrun : ∀ t, ∃ t', runIn x t = (.ok a, t') ∧ Extends t t' ∧
      b.contents t'.store = change (b.contents t.store))
    (hP : P a change) : Changes b M x P := by
  intro s a' s' _ hs
  obtain ⟨t', ht', -⟩ := hrun s
  rw [hs] at ht'
  cases ht'
  exact ⟨change, hP, fun t _ => hrun t⟩

theorem bind (hx : Changes b M x P)
    (hmeets : ∀ a change contents, P a change → M contents → N (change contents))
    (hf : ∀ a change, P a change → Changes b N (f a) fun b change' => Q b (change' ∘ change)) :
    Changes b M (x >>= f) Q := by
  intro s r s' hs hrun
  obtain ⟨a, s₁, ha, hr⟩ := run_bind_ok hrun
  obtain ⟨change, hP, hx⟩ := hx s a s₁ hs ha
  have hs₁ : N (b.contents s₁.store) := by
    obtain ⟨_, hsame, -, hc⟩ := hx s hs
    cases ha.symm.trans hsame
    exact hc ▸ hmeets a change _ hP hs
  obtain ⟨change', hQ, hf⟩ := hf a change hP s₁ r s' hs₁ hr
  refine ⟨change' ∘ change, hQ, fun t ht => ?_⟩
  obtain ⟨t₁, ht₁, hfirst, hc₁⟩ := hx t ht
  obtain ⟨t', ht', hsecond, hc'⟩ := hf t₁ (hc₁ ▸ hmeets a change _ hP ht)
  exact ⟨t', by rw [run_bind, ht₁]; exact ht', hfirst.trans hsecond, by rw [hc', hc₁]; rfl⟩

/-- A first step that changes nothing leaves the rest to make the change. -/
theorem bind_unchanged {S : α → Prop} (hx : Changes b M x fun a change => change = id ∧ S a)
    (hf : ∀ a, S a → Changes b M (f a) Q) : Changes b M (x >>= f) Q := by
  refine hx.bind (N := M) ?_ ?_
  · rintro a change contents ⟨rfl, -⟩ hM
    exact hM
  · rintro a change ⟨rfl, ha⟩
    exact hf a ha

theorem mono {P' : α → (Contents → Contents) → Prop} (hx : Changes b M x P)
    (h : ∀ a change, P a change → P' a change) : Changes b M x P' := by
  intro s a s' hs hrun
  obtain ⟨change, hP, hx⟩ := hx s a s' hs hrun
  exact ⟨change, h a change hP, hx⟩

theorem pure {a : α} (h : P a id) : Changes b M (Pure.pure a) P :=
  of_run (fun t => ⟨t, rfl, .of_eq rfl, rfl⟩) h

theorem throw (fault : Fault) : Changes b M (MonadExcept.throw fault : Building σ α) P := by
  intro s a s' _ hrun
  cases hrun

theorem lift_bind {r : Except Fault α} (hf : ∀ a, r = .ok a → Changes b M (f a) Q) :
    Changes b M ((liftM r : Building σ α) >>= f) Q := by
  refine bind_unchanged (S := (r = .ok ·)) ?_ hf
  intro s a s' _ hrun
  obtain ⟨rfl, -⟩ := run_lift_ok hrun
  exact ⟨id, ⟨rfl, rfl⟩, fun t _ => ⟨t, rfl, .of_eq rfl, rfl⟩⟩

theorem note (line : Text) : Changes b M (note line) fun _ change => change = id :=
  of_run (fun t => ⟨{ t with console := t.console ++ line ++ "\n" }, rfl, .of_eq rfl, rfl⟩) rfl

theorem note_bind {line : Text} {f : Unit → Building σ β} (hf : Changes b M (f ()) Q) :
    Changes b M (Vector.note line >>= f) Q :=
  bind_unchanged (S := fun _ => True) ((note line).mono fun _ _ h => ⟨h, trivial⟩) fun _ _ => hf

/-- To make a collection anew is to place an empty one. -/
theorem recreate (laws : b.Lawful) (name : Text) :
    Changes b M (recreate b name) fun _ change => change = (Contents.place · (name, [])) := by
  rintro s ⟨⟩ s' - hrun
  obtain ⟨u, -, hu, hsame⟩ := run_recreate laws name s
  have hok : (b.answer (.create name) u.store).1.isOk = true := by
    rcases call_cases b (.create name) u with ⟨_, hanswer, -⟩ | ⟨fault, _, -, hcall⟩
    · rw [hanswer]
      rfl
    · rw [hsame, hcall] at hrun
      cases (Prod.ext_iff.1 hrun).1
  refine ⟨_, rfl, fun t _ => ?_⟩
  obtain ⟨v, hextends, hv, hsame'⟩ := run_recreate laws name t
  rw [laws.creatable (not_mem_names hu) (not_mem_names hv)] at hok
  rcases call_cases b (.create name) v with ⟨store, hanswer, hcall⟩ | ⟨fault, _, hanswer, -⟩
  · refine ⟨_, hsame'.trans hcall, hextends.trans ⟨[.create name], rfl, by simp [StoreCall.Aligned]⟩, ?_⟩
    rw [laws.contents_create hanswer, hv]
    rfl
  · rw [hanswer] at hok
    cases hok

theorem extend_place (contents : Contents) (name : Text) (items : List Item) :
    (contents.place (name, [])).extend name items = contents.place (name, items) := by
  have hothers : ∀ c ∈ contents.filter (·.1 ≠ name),
      (if c.1 = name then (c.1, c.2 ++ items) else c) = c := by
    intro c hc
    have hne : c.1 ≠ name := by simpa using (List.mem_filter.1 hc).2
    rw [if_neg hne]
  rw [Contents.place, Contents.extend, List.map_append, List.map_congr_left hothers, List.map_id',
    List.map_singleton, if_pos rfl, List.nil_append]
  rfl

/-- In a store that has an empty collection of a name, items are added to it. -/
theorem add (laws : b.Lawful) (name : Text) {batch : Batch} (haligned : batch.Aligned) :
    Changes b ((name, []) ∈ ·) (call b (.add name batch)) fun _ change =>
      change = (Contents.extend · name batch.items) := by
  rintro s ⟨⟩ s' hs hrun
  obtain ⟨hname, hempty⟩ := Backend.mem_contents.1 hs
  have hok : (b.answer (.add name batch) s.store).1.isOk = true := by
    rcases call_cases b (.add name batch) s with ⟨_, hanswer, -⟩ | ⟨fault, _, -, hcall⟩
    · rw [hanswer]
      rfl
    · rw [hcall] at hrun
      cases (Prod.ext_iff.1 hrun).1
  refine ⟨_, rfl, fun t ht => ?_⟩
  obtain ⟨hname', hempty'⟩ := Backend.mem_contents.1 ht
  rw [laws.addable hname hempty hname' hempty'] at hok
  rcases call_cases b (.add name batch) t with ⟨store, hanswer, hcall⟩ | ⟨fault, _, hanswer, -⟩
  · refine ⟨_, hcall, ⟨[.add name batch], rfl, ?_⟩, laws.contents_add hanswer hempty'⟩
    exact List.forall_mem_singleton.2 haligned
  · rw [hanswer] at hok
    cases hok

theorem store (laws : b.Lawful) (name : Text) (entries : List Entry) :
    Changes b ((name, []) ∈ ·) (store b name entries) fun _ change =>
      ∀ contents : Contents, change (contents.place (name, [])) =
        contents.place (name, entries.map Entry.item) := by
  cases entries with
  | nil =>
    refine (note _).mono ?_
    rintro ⟨⟩ change rfl contents
    rfl
  | cons e entries =>
    refine (add laws name (Batch.aligned_ofEntries (e :: entries))).bind (N := fun _ => True)
      (fun _ _ _ _ _ => trivial) ?_
    rintro ⟨⟩ change rfl
    refine (note _).mono ?_
    rintro ⟨⟩ change rfl contents
    show (contents.place (name, [])).extend name (Batch.ofEntries (e :: entries)).items = _
    rw [extend_place, Batch.items_ofEntries]

end Changes

end Changes

/-! ## The collection of a column -/

/-- What stands under the first of some keys that has something, and nothing void, under it. -/
def firstGiven? (fields : List (Text × Doc)) (keys : List Text) : Option Doc :=
  (keys.filterMap (Doc.find? fields)).find? (!·.isVoid)

/-- The meanings given to a column, by its full name or else by its own, if they are a record. -/
def meanings? (fields : List (Text × Doc)) (full column : Text) : Option (List (Text × Doc)) :=
  match firstGiven? fields [full, column] with
  | some (.record meanings) => some meanings
  | _ => none

/-- There is one entry for each value of a column whose text is not blank, in their order. -/
def Occurring (db : Database) (table column : Text) (entries : List Entry) : Prop :=
  ∃ answer texts, db.query (.text (valuesQuery table column)) = .ok answer ∧
    columnTexts answer column = .ok texts ∧
    entries = (texts.filter (!Text.isBlankText ·)).map fun t => ⟨t, .text t⟩

/-- The entries for a column of a table: the meanings given to its values, or else the values. -/
def EntriesFor (db : Database) (fields : List (Text × Doc)) (table column : Text)
    (entries : List Entry) : Prop :=
  match meanings? fields (table ++ .char '.' :: column) column with
  | some meanings => entries = meanings.map fun m => ⟨m.1, m.2⟩
  | none => Occurring db table column entries

/-- The collection `c` is that of the column with the full name `name`. -/
def Fills (db : Database) (mappings name : Doc) (c : Text × List Item) : Prop :=
  ∃ fields table column entries, mappings = .record fields ∧
    name = .text (table ++ .char '.' :: column) ∧ (.char '.' ∉ table ∧ .char '.' ∉ column) ∧
    EntriesFor db fields table column entries ∧ c = (table ++ "_" ++ column, entries.map Entry.item)

theorem firstGiven?_cons_of_void {fields : List (Text × Doc)} {key : Text} (keys : List Text)
    (h : ((Doc.find? fields key).getD .null).isVoid = true) :
    firstGiven? fields (key :: keys) = firstGiven? fields keys := by
  unfold firstGiven?
  cases hfind : Doc.find? fields key with
  | none => rw [List.filterMap_cons_none hfind]
  | some v =>
    rw [hfind] at h
    rw [List.filterMap_cons_some hfind, List.find?_cons_of_neg (by simpa using h)]

theorem firstGiven?_cons {fields : List (Text × Doc)} {key : Text} (keys : List Text)
    (h : ((Doc.find? fields key).getD .null).isVoid = false) :
    firstGiven? fields (key :: keys) = some ((Doc.find? fields key).getD .null) := by
  unfold firstGiven?
  cases hfind : Doc.find? fields key with
  | none =>
    rw [hfind] at h
    cases h
  | some v =>
    rw [hfind] at h
    rw [List.filterMap_cons_some hfind, List.find?_cons_of_pos (by simpa using h)]
    rfl

theorem meaningsOf_ok {mappings : Doc} {full column : Text} {meanings : Doc}
    (h : meaningsOf mappings full column = .ok meanings) : ∃ fields, mappings = .record fields ∧
      firstGiven? fields [full, column] = if meanings.isVoid then none else some meanings := by
  obtain ⟨v, hv, h⟩ := ok_of_bind h
  obtain ⟨fields, hfields, hv⟩ := ok_of_bind hv
  cases mappings with
  | record members =>
    obtain rfl : members = fields := Except.ok.inj hfields
    obtain rfl : (Doc.find? members full).getD .null = v := Except.ok.inj hv
    refine ⟨members, rfl, ?_⟩
    by_cases hfull : ((Doc.find? members full).getD .null).isVoid = true
    · rw [if_pos hfull] at h
      obtain rfl : (Doc.find? members column).getD .null = meanings := Except.ok.inj h
      rw [firstGiven?_cons_of_void _ hfull]
      by_cases hcolumn : ((Doc.find? members column).getD .null).isVoid = true
      · rw [if_pos hcolumn, firstGiven?_cons_of_void _ hcolumn]
        rfl
      · rw [if_neg hcolumn, firstGiven?_cons _ (Bool.eq_false_iff.2 hcolumn)]
    · rw [if_neg hfull] at h
      cases h
      rw [if_neg hfull, firstGiven?_cons _ (Bool.eq_false_iff.2 hfull)]
  | _ => cases hfields

section Columns
variable {σ : Type} {b : Backend σ} {M : Contents → Prop}

theorem changes_occurring (db : Database) (table column : Text) :
    Changes b M (occurring db table column) fun entries change =>
      change = id ∧ Occurring db table column entries := by
  refine .note_bind (.note_bind ?_)
  refine .lift_bind fun answer hanswer => .lift_bind fun texts htexts => ?_
  exact .pure ⟨rfl, answer, texts, hanswer, htexts, rfl⟩

theorem entriesOf_of_void {meanings : Doc} (h : meanings.isVoid = true) (db : Database)
    (table column : Text) :
    (entriesOf db meanings table column : Building σ (List Entry)) = occurring db table column := by
  cases meanings with
  | record given =>
    cases given with
    | nil => rfl
    | cons m ms => cases h
  | _ => rfl

theorem changes_entriesOf {db : Database} {fields : List (Text × Doc)} {table column : Text}
    {meanings : Doc}
    (h : meaningsOf (.record fields) (table ++ .char '.' :: column) column = .ok meanings) :
    Changes b M (entriesOf db meanings table column) fun entries change =>
      change = id ∧ EntriesFor db fields table column entries := by
  obtain ⟨_, hfields, hfirst⟩ := meaningsOf_ok h
  cases hfields
  unfold EntriesFor meanings?
  rw [hfirst]
  by_cases hvoid : meanings.isVoid = true
  · rw [if_pos hvoid, entriesOf_of_void hvoid]
    exact changes_occurring db table column
  · rw [if_neg hvoid]
    cases meanings with
    | record given =>
      cases given with
      | nil => exact absurd rfl hvoid
      | cons m ms => exact .note_bind (.pure ⟨rfl, rfl⟩)
    | _ => exact changes_occurring db table column

theorem changes_buildColumn (laws : b.Lawful) (db : Database) (mappings name : Doc) :
    Changes b M (buildColumn b db mappings name) fun _ change =>
      ∃ c, Fills db mappings name c ∧ change = (Contents.place · c) := by
  refine .lift_bind fun parts hparts => ?_
  obtain ⟨table, column⟩ := parts
  refine .note_bind ((Changes.recreate laws (table ++ "_" ++ column)).bind
    (N := ((table ++ "_" ++ column, []) ∈ ·)) ?_ ?_)
  · rintro _ change contents rfl -
    exact List.mem_append_right _ (List.mem_singleton_self _)
  rintro ⟨⟩ change rfl
  refine .lift_bind fun meanings hmeanings => .note_bind (.note_bind ?_)
  -- The name is a text from here on, so that its display is the full name in `meanings?`.
  obtain ⟨fields, rfl, -⟩ := meaningsOf_ok hmeanings
  obtain ⟨rfl, hfree⟩ := splitName_eq_ok_iff.1 hparts
  refine (changes_entriesOf hmeanings).bind_unchanged fun entries hentries => ?_
  refine (Changes.store laws _ entries).mono ?_
  rintro ⟨⟩ change hchange
  refine ⟨_, ⟨fields, table, column, entries, rfl, rfl, hfree, hentries, rfl⟩, ?_⟩
  exact funext hchange

/-- One collection is placed for each column. -/
theorem changes_columns (laws : b.Lawful) (db : Database) (mappings : Doc) (columns : List Doc) :
    Changes b (fun _ => True) (columns.forM (buildColumn b db mappings)) fun _ change =>
      ∃ built, List.Forall₂ (Fills db mappings) columns built ∧
        change = (built.foldl Contents.place ·) := by
  induction columns with
  | nil => exact .pure ⟨[], .nil, rfl⟩
  | cons name columns ih =>
    refine (changes_buildColumn laws db mappings name).bind (N := fun _ => True)
      (fun _ _ _ _ _ => trivial) ?_
    rintro ⟨⟩ change ⟨c, hc, rfl⟩
    refine ih.mono ?_
    rintro ⟨⟩ change ⟨built, hbuilt, rfl⟩
    exact ⟨c :: built, .cons hc hbuilt, rfl⟩

/-- The columns that a description names. -/
def columnsOf (description : Doc) : Except Fault (List Doc) := do
  (← description.memberD "text_columns" (.list [])).elements

theorem changes_build (laws : b.Lawful) (db : Database) (description : Doc) :
    Changes b (fun _ => True) (build b db description) fun _ change => ∃ mappings columns built,
      description.memberD "value_mappings" (.record []) = .ok mappings ∧
      columnsOf description = .ok columns ∧ List.Forall₂ (Fills db mappings) columns built ∧
      change = (built.foldl Contents.place ·) := by
  refine .lift_bind fun columns hcolumns => .note_bind ?_
  refine .lift_bind fun mappings hmappings => ?_
  cases db.connectError with
  | some message =>
    exact (Changes.throw (P := fun _ _ => False) _).bind (N := fun _ => True)
      (fun _ _ _ h => h.elim) fun _ _ h => h.elim
  | none =>
    refine .lift_bind fun count _ => .note_bind (.lift_bind fun names hnames => ?_)
    refine (changes_columns laws db mappings names).bind (N := fun _ => True)
      (fun _ _ _ _ _ => trivial) ?_
    rintro ⟨⟩ change ⟨built, hbuilt, rfl⟩
    refine (Changes.note _).mono ?_
    rintro ⟨⟩ change rfl
    refine ⟨mappings, names, built, hmappings, ?_, hbuilt, rfl⟩
    rw [columnsOf, hcolumns]
    exact hnames

/-- The name of the collection of a column. -/
def nameFor (column : Doc) : Except Fault Text :=
  (splitName column).map fun parts => parts.1 ++ "_" ++ parts.2

theorem names_of_fills {db : Database} {mappings : Doc} {columns : List Doc}
    {built : List (Text × List Item)} (h : List.Forall₂ (Fills db mappings) columns built) :
    columns.mapM nameFor = .ok (built.map Prod.fst) := by
  rw [mapM_eq_ok_iff, List.forall₂_map_right_iff]
  refine h.imp ?_
  rintro _ _ ⟨fields, table, column, entries, -, rfl, hfree, -, rfl⟩
  rw [nameFor, splitName_eq_ok_iff.2 ⟨rfl, hfree⟩]
  rfl

/-- Whatever keeps the collections, building leaves alone what no column names, gives each column its
collection anew and can be repeated. The collections of the columns come last, in the order of the
columns. -/
theorem build_refills (laws : b.Lawful) {db : Database} {description : Doc} {columns : List Doc}
    {names : List Text} {s s' : BuildState σ} (hrun : runIn (build b db description) s = (.ok (), s'))
    (hcolumns : columnsOf description = .ok columns)
    (hnames : columns.mapM nameFor = .ok names) (hdistinct : names.Nodup) :
    ∃ mappings built, description.memberD "value_mappings" (.record []) = .ok mappings ∧
      List.Forall₂ (Fills db mappings) columns built ∧ built.map Prod.fst = names ∧
      b.contents s'.store = (b.contents s.store).without names ++ built ∧
      (∃ made, s'.calls = s.calls ++ made ∧ ∀ name batch, .add name batch ∈ made → batch.Aligned) ∧
      ∀ t, b.contents t.store = b.contents s'.store →
        ∃ t', runIn (build b db description) t = (.ok (), t') ∧
          b.contents t'.store = b.contents s'.store := by
  obtain ⟨change, ⟨mappings, columns', built, hmappings, hcolumns', hbuilt, rfl⟩, hchange⟩ :=
    changes_build laws db description s () s' trivial hrun
  obtain rfl : columns' = columns := Except.ok.inj (hcolumns'.symm.trans hcolumns)
  obtain rfl : built.map Prod.fst = names :=
    Except.ok.inj ((names_of_fills hbuilt).symm.trans hnames)
  dsimp only at hchange
  obtain ⟨_, hs', ⟨made, hmade, haligned⟩, hcontents⟩ := hchange s trivial
  cases hrun.symm.trans hs'
  refine ⟨mappings, built, hmappings, hbuilt, rfl, ?_, ?_, ?_⟩
  · rw [hcontents, foldl_place, foldl_place_nil hdistinct]
  · exact ⟨made, hmade, fun name batch hmem => haligned _ hmem⟩
  · intro t ht
    obtain ⟨t', ht', -, hagain⟩ := hchange t trivial
    refine ⟨t', ht', ?_⟩
    rw [hagain, ht, hcontents, foldl_place_twice]

end Columns

/-- A column without meanings, and one whose meanings stand under its own name. -/
def bankDescription : Doc :=
  .record [("text_columns", .list [.text "district.A2", .text "loan.status"]),
    ("value_mappings", .record [("loan.status", .record []),
      ("status", .record [("A", .text "finished"), ("B", .text "unpaid")])])]

/-- A database in which one column has three values, one of them blank. -/
def bank : Database where
  connectError := none
  replies := [(valuesQuery "district" "A2",
    .table ⟨["A2"], [[.text "Praha"], [.text " "], [.text "Brno"]]⟩)]

/-- A backend that makes no collection whose name has a blank. -/
def plainNames : Backend Contents :=
  Contents.backend fun name => if Text.contains " " name then some "Invalid collection name" else none

/-- A store with a collection to be replaced and one to be kept. -/
def bankStore : BuildState Contents where
  console := ""
  calls := []
  store := [("loan_status", [Entry.item ⟨"C", .text "running"⟩]),
    ("notes", [Entry.item ⟨"n", .text "kept"⟩])]

theorem bankRun : (runIn (build plainNames bank bankDescription) bankStore).1.toOption = some () ∧
    ((plainNames.contents (runIn (build plainNames bank bankDescription) bankStore).2.store).map fun c =>
      (c.1, c.2.map Item.id)) = ([("notes", ["n"]), ("district_A2", ["Praha", "Brno"]),
        ("loan_status", ["A", "B"])] : List (Text × List Text)) := by
  decide +kernel

theorem build_refills_bank : plainNames.Lawful ∧ ∃ s' mappings built,
    runIn (build plainNames bank bankDescription) bankStore = (.ok (), s') ∧
    List.Forall₂ (Fills bank mappings) [.text "district.A2", .text "loan.status"] built ∧
    plainNames.contents s'.store =
      (plainNames.contents bankStore.store).without ["district_A2", "loan_status"] ++ built ∧
    ((plainNames.contents s'.store).map fun c => (c.1, c.2.map Item.id)) = ([("notes", ["n"]),
      ("district_A2", ["Praha", "Brno"]), ("loan_status", ["A", "B"])] : List (Text × List Text)) ∧
    ∃ t', runIn (build plainNames bank bankDescription) s' = (.ok (), t') ∧
      plainNames.contents t'.store = plainNames.contents s'.store := by
  refine ⟨Contents.lawful_backend _, ?_⟩
  obtain ⟨hok, hids⟩ := bankRun
  rcases hrun : runIn (build plainNames bank bankDescription) bankStore with ⟨r, s'⟩
  rw [hrun] at hok hids
  obtain rfl : r = .ok () := ok_of_toOption hok
  have hcolumns : columnsOf bankDescription = .ok [.text "district.A2", .text "loan.status"] := rfl
  have hnames : [Doc.text "district.A2", Doc.text "loan.status"].mapM nameFor =
    .ok ["district_A2", "loan_status"] := rfl
  obtain ⟨mappings, built, -, hbuilt, -, hcontents, -, hagain⟩ :=
    build_refills (Contents.lawful_backend _) hrun hcolumns hnames (by decide)
  exact ⟨s', mappings, built, rfl, hbuilt, hcontents, hids, hagain s' rfl⟩

end Vector

end QueryBench
