import QueryBench.Proofs.Console
import QueryBench.Proofs.Plan.Readability
import QueryBench.Proofs.Text.Literals

/-!
# Texts in a statement

A text of a plan or of the vector store is put between quotes as it stands, at four places: a constant,
an item of a list of constants, a value that a search found, and the term of a search that found
nothing. What is written is a literal, but of this text only if it has no quote.

Main definition: `Plan.Quotes`. Main statement: `Plan.texts_between_quotes`.
-/
set_option autoImplicit false

namespace QueryBench

open Text (quote betweenQuotes listText)

namespace Vector

/-- Does the search for a value end with a fault, or without a value? -/
def Misses (store : Store) (table column term operator : Doc) : Prop :=
  ∀ text c, (store.query (collectionName table column) term (.int 1) >>= select operator) ≠
    .ok (some text, c)

theorem select_single (operator : Doc) {hit : Hit} {s : Text} {c : Float}
    (h : hit.candidate = .ok ⟨.text s, c⟩) :
    select operator [hit] = .ok (some (betweenQuotes s), c) := by
  have hcandidates : [hit].mapM Hit.candidate = .ok [⟨.text s, c⟩] :=
    mapM_eq_ok_iff.2 (.cons h .nil)
  have haccepted : accepted operator [⟨.text s, c⟩] = [.text s] := by
    rw [accepted]
    by_cases htakes : takesList operator = true
    · rw [if_pos htakes]
      rfl
    · rw [if_neg htakes]
  rw [select, hcandidates, ok_bind]
  dsimp only
  rw [haccepted]
  simp [Text.join, valueText, betweenQuotes]
  rfl

theorem yields_search_found {store : Store} {table column term operator : Doc} {text : Text} {c : Float}
    (h : (store.query (collectionName table column) term (.int 1) >>= select operator) =
      .ok (some text, c)) :
    Yields (search store table column term operator (.int 1)) (.ok (some text, c)) := by
  rw [search, h]
  exact .pure _

theorem yields_search_misses {store : Store} {table column term operator : Doc}
    (h : Misses store table column term operator) :
    ∃ c, Yields (search store table column term operator (.int 1)) (.ok (none, c)) := by
  rw [search]
  cases hr : store.query (collectionName table column) term (.int 1) >>= select operator with
  | ok r =>
    obtain ⟨found?, c⟩ := r
    cases found? with
    | none => exact ⟨c, .pure _⟩
    | some text => exact absurd hr (h text c)
  -- a fault is reported on the console and counts as nothing found
  | error fault => exact ⟨_, (Yields.say _).bind_ok (.pure _)⟩

end Vector

namespace Plan

/-- The field of a node, null when it is missing. -/
abbrev part (fields : List (Text × Doc)) (key : Text) : Doc :=
  (Doc.find? fields key).getD .null

/-- A node whose text is the given one put between quotes. -/
inductive Quotes (ctx : Context) (operator : Doc) (fields : List (Text × Doc)) : Text → Prop where
  | constant {s : Text} (htype : Doc.find? fields "type" = some (.text "LITERAL"))
      (hvalue : Doc.find? fields "value" = some (.text s))
      (hopen : Text.startsWith "(" (Text.trim s) = false) : Quotes ctx operator fields s
  | found {s : Text} {hit : Vector.Hit} {c : Float}
      (htype : Doc.find? fields "type" = some (.text "SEMANTIC"))
      (hquery : ctx.store.query (Vector.collectionName (part fields "table") (part fields "column"))
        (part fields "value") (.int 1) = .ok [hit])
      (hvalue : hit.candidate = .ok ⟨.text s, c⟩) : Quotes ctx operator fields s
  | missed {s : Text} (htype : Doc.find? fields "type" = some (.text "SEMANTIC"))
      (hvalue : Doc.find? fields "value" = some (.text s))
      (hmissed : Vector.Misses ctx.store (part fields "table") (part fields "column") (.text s)
        operator) : Quotes ctx operator fields s

theorem ofDoc_literal {fields : List (Text × Doc)}
    (htype : Doc.find? fields "type" = some (.text "LITERAL")) :
    Value.ofDoc (.record fields) = .literal (part fields "value") := by
  rw [valueOf_ofFields htype]
  unfold Reading.valueOf
  rw [sourceAt_ofFields, htype, sourceAt_ofFields]
  rfl

theorem ofDoc_semantic {fields : List (Text × Doc)}
    (htype : Doc.find? fields "type" = some (.text "SEMANTIC")) :
    Value.ofDoc (.record fields) =
      .semantic (part fields "table") (part fields "column") (part fields "value") := by
  rw [valueOf_ofFields htype]
  unfold Reading.valueOf
  rw [sourceAt_ofFields, htype, sourceAt_ofFields, sourceAt_ofFields, sourceAt_ofFields]
  rfl

theorem yields_quoted {ctx : Context} {operator : Doc} {fields : List (Text × Doc)} {s : Text}
    (h : Quotes ctx operator fields s) :
    Yields (renderValue ctx operator (.ofDoc (.record fields))) (.ok (.text (betweenQuotes s))) := by
  cases h with
  | constant htype hvalue hopen =>
    rw [ofDoc_literal htype, part, hvalue, Option.getD_some, renderValue, literalText, hopen]
    exact .pure _
  | found htype hquery hvalue =>
    have hfound := Vector.select_single operator hvalue
    rw [← ok_bind [_] (Vector.select operator), ← hquery] at hfound
    rw [ofDoc_semantic htype, renderValue]
    exact (Vector.yields_search_found hfound).bind_ok (.pure _)
  | missed htype hvalue hmissed =>
    rw [ofDoc_semantic htype, renderValue]
    have hterm : part fields "value" = .text s := by rw [part, hvalue, Option.getD_some]
    rw [hterm]
    obtain ⟨c, hsearch⟩ := Vector.yields_search_misses hmissed
    exact hsearch.bind_ok (.pure _)

theorem yields_list (ctx : Context) (operator : Doc) {fields : List (Text × Doc)} {items : List Doc}
    (htype : Doc.find? fields "type" = some (.text "LITERAL"))
    (hvalue : Doc.find? fields "value" = some (.list items)) :
    Yields (renderValue ctx operator (.ofDoc (.record fields)))
      (.ok (.text (listText (items.map constantText)))) := by
  rw [ofDoc_literal htype, part, hvalue, Option.getD_some, renderValue, literalText]
  exact .pure _

/-- A text that is put between quotes makes a literal of another one exactly if it is this one with its
quotes doubled. So it is a literal of itself exactly if it has no quote, and a list of texts is read
back exactly if none of them has one. -/
theorem texts_between_quotes (ctx : Context) (operator : Doc) (fields : List (Text × Doc))
    (console : Text) :
    (∀ s, Quotes ctx operator fields s → ∃ sql console',
      runIn (renderValue ctx operator (.ofDoc (.record fields))) console
        = (.ok (.text sql), console') ∧
      (∀ value, Text.lexemes sql = some [.literal value] ↔ s = Text.doubled value) ∧
      (Text.lexemes sql = some [.literal s] ↔ quote ∉ s)) ∧
    (∀ items, Doc.find? fields "type" = some (.text "LITERAL") →
      Doc.find? fields "value" = some (.list items) → ∃ texts console',
      runIn (renderValue ctx operator (.ofDoc (.record fields))) console
        = (.ok (.text (listText texts)), console') ∧
      List.Forall₂ (fun item text => ∀ s, item = .text s →
        (Text.lexemes text = some [.literal s] ↔ quote ∉ s)) items texts ∧
      ∀ strings, items = strings.map .text →
        (Text.readList (listText texts) = some strings ↔ ∀ s ∈ strings, quote ∉ s)) := by
  constructor
  · intro s hs
    obtain ⟨console', hrun⟩ := (yields_quoted hs).run console
    exact ⟨_, console', hrun, fun value => Text.lexemes_between_quotes_iff,
      Text.lexemes_between_quotes_self_iff⟩
  · intro items htype hvalue
    obtain ⟨console', hrun⟩ := (yields_list ctx operator htype hvalue).run console
    refine ⟨_, console', hrun, ?_, ?_⟩
    · rw [List.forall₂_map_right_iff, List.forall₂_same]
      rintro item - s rfl
      exact Text.lexemes_between_quotes_self_iff
    · rintro strings rfl
      have htexts : (strings.map Doc.text).map constantText = strings.map betweenQuotes := by
        rw [List.map_map]
        rfl
      rw [htexts]
      exact Text.readList_between_quotes_iff

def streetStore : Vector.Store where
  collections := [("street_name", .answering [("*",
    [⟨.record [("db_value", .text "Dlouha")], .int 1⟩])])]

/-- A term to be searched for among the names of a table. -/
def namedNode (table : Text) : List (Text × Doc) :=
  [("type", .text "SEMANTIC"), ("table", .text table), ("column", .text "name"), ("value", .text "long")]

/-- A constant. -/
def constantNode (value : Doc) : List (Text × Doc) :=
  [("type", .text "LITERAL"), ("value", value)]

theorem texts_between_quotes_places :
    (∃ sql console, runIn (renderValue (context ⟨[]⟩ streetStore) (.text "=")
        (.ofDoc (.record (constantNode (.text "it''s"))))) [] = (.ok (.text sql), console) ∧
      Text.lexemes sql = some [.literal "it's"]) ∧
    (∃ sql console, runIn (renderValue (context ⟨[]⟩ streetStore) (.text "IN")
        (.ofDoc (.record (namedNode "street")))) [] = (.ok (.text sql), console) ∧
      Text.lexemes sql = some [.literal "Dlouha"]) ∧
    (∃ sql console, runIn (renderValue (context ⟨[]⟩ streetStore) (.text "=")
        (.ofDoc (.record (namedNode "city")))) [] = (.ok (.text sql), console) ∧
      Text.lexemes sql = some [.literal "long"]) ∧
    ∃ sql console, runIn (renderValue (context ⟨[]⟩ streetStore) (.text "IN")
        (.ofDoc (.record (constantNode (.list [.text "a, (", .text ""]))))) []
          = (.ok (.text sql), console) ∧
      Text.readList sql = some (Text.ofStrings ["a, (", ""]) := by
  refine ⟨?_, ?_, ?_, ?_⟩
  · obtain ⟨sql, console, hrun, hvalue, -⟩ := (texts_between_quotes (context ⟨[]⟩ streetStore)
      (.text "=") (constantNode (.text "it''s")) []).1 "it''s" (.constant rfl rfl (by decide))
    exact ⟨sql, console, hrun, (hvalue _).2 (by decide)⟩
  · obtain ⟨sql, console, hrun, -, hself⟩ := (texts_between_quotes (context ⟨[]⟩ streetStore)
      (.text "IN") (namedNode "street") []).1 "Dlouha" (.found rfl rfl rfl)
    exact ⟨sql, console, hrun, hself.2 (by decide)⟩
  · have hmissed : Vector.Misses streetStore (.text "city") (.text "name") (.text "long")
        (.text "=") := by
      intro text c h
      cases h
    obtain ⟨sql, console, hrun, -, hself⟩ := (texts_between_quotes (context ⟨[]⟩ streetStore)
      (.text "=") (namedNode "city") []).1 "long" (.missed rfl rfl hmissed)
    exact ⟨sql, console, hrun, hself.2 (by decide)⟩
  · obtain ⟨texts, console, hrun, -, hlist⟩ := (texts_between_quotes (context ⟨[]⟩ streetStore)
      (.text "IN") (constantNode (.list [.text "a, (", .text ""])) []).2 _ rfl rfl
    exact ⟨_, console, hrun, (hlist (Text.ofStrings ["a, (", ""]) rfl).2 (by decide)⟩

/-- A quote in a text ends the literal: the statement cannot be read, or has other items. -/
theorem quote_ends_literal :
    (runIn (renderValue (context ⟨[]⟩ streetStore) (.text "=")
        (.ofDoc (.record (constantNode (.text "it's"))))) []).1 = .ok (.text "'it's'") ∧
    Text.lexemes "'it's'" = none ∧
    (runIn (renderValue (context ⟨[]⟩ streetStore) (.text "IN")
        (.ofDoc (.record (constantNode (.list [.text "a', 'b"]))))) []).1 = .ok (.text "('a', 'b')") ∧
    Text.readList "('a', 'b')" = some (Text.ofStrings ["a", "b"]) := by
  refine ⟨rfl, by decide, rfl, by decide⟩

end Plan

end QueryBench
