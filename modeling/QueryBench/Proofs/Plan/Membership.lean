import QueryBench.Proofs.Json.Decimal
import QueryBench.Proofs.Plan.Opening
import QueryBench.Proofs.Plan.Quoting
import QueryBench.Proofs.Vector.Selection

/-!
# Operands that are sets

The right side of a comparison stands for a set if it is a list of constants, or if it is searched for
under `IN` or `NOT IN`. An operator is turned into one of membership only before a list that is also a
query, which neither of them is, and only a list of constants comes in parentheses. So of such a
comparison a test of membership in a list is made exactly if the operator is one and the list is given.

Main definitions: `Plan.SetOperand`, `Plan.TestsMembership`. Main statement:
`Plan.membership_of_given_lists`.
-/
set_option autoImplicit false

namespace QueryBench

/-! ## How values begin -/

/-- The glyphs with which a value begins in a statement. -/
def openings : Text :=
  "'\"NTF0123456789+-.enaif[\x7b"

/-- Does a text begin as a value does? -/
def Opens (s : Text) : Prop :=
  ∃ g rest, s = g :: rest ∧ g ∈ openings

theorem opens_of_subset {s : Text} (hne : s ≠ []) (h : s ⊆ openings) : Opens s := by
  obtain ⟨g, rest, rfl⟩ := List.exists_cons_of_ne_nil hne
  exact ⟨g, rest, rfl, h List.mem_cons_self⟩

theorem opens_quoted (s : Text) : Opens ("'" ++ s ++ "'") :=
  ⟨.char '\'', s ++ "'", rfl, by decide⟩

theorem opens_literal (d : Doc) : Opens d.literal := by
  cases d with
  | null => exact ⟨.char 'N', "one", rfl, by decide⟩
  | bool b =>
    cases b with
    | true => exact ⟨.char 'T', "rue", rfl, by decide⟩
    | false => exact ⟨.char 'F', "alse", rfl, by decide⟩
  | int n =>
    have hglyphs : Text.ofString "0123456789-" ⊆ openings := by decide
    exact opens_of_subset (Plan.text_int_ne_nil n)
      (List.Subset.trans (Json.subset_intText n) hglyphs)
  | real x =>
    have hglyphs : Text.ofString "0123456789+-.e" ++ Text.ofString "naif" ⊆ openings := by decide
    obtain ⟨g, hg, -⟩ := Json.exists_mark_realText x
    exact opens_of_subset (List.ne_nil_of_mem hg)
      (List.Subset.trans (Json.subset_realText x) hglyphs)
  | text s =>
    refine ⟨.char (Text.quoteFor s), _, rfl, ?_⟩
    unfold Text.quoteFor
    split <;> decide
  | list items => exact ⟨.char '[', _, rfl, by decide⟩
  | record fields => exact ⟨.char '\x7b', _, rfl, by decide⟩

theorem Vector.opens_valueText (d : Doc) : Opens (valueText d) := by
  cases d with
  | text s => exact opens_quoted s
  | _ => exact opens_literal _

theorem Plan.opens_constantText (d : Doc) : Opens (constantText d) := by
  cases d with
  | null => exact ⟨.char 'N', "ULL", rfl, by decide⟩
  | text s => exact opens_quoted s
  | _ => exact opens_literal _

theorem Opens.join {first : Text} (h : Opens first) (separator : Text) (rest : List Text) :
    Opens (Text.join separator (first :: rest)) := by
  obtain ⟨g, tail, rfl, hg⟩ := h
  obtain ⟨behind, hbehind⟩ := Plan.prefix_join separator (g :: tail) rest
  exact ⟨g, tail ++ behind, hbehind.symm, hg⟩

/-- No value is a query, in whatever case. -/
theorem Opens.not_select {s : Text} (h : Opens s) (behind : Text) :
    Text.startsWith "SELECT" (Text.upper (s ++ behind)) = false := by
  have hupper : ∀ g ∈ openings,
      Text.Case.upperGlyph g ≠ [] ∧ (Text.Case.upperGlyph g).head? ≠ some (.char 'S') := by decide
  obtain ⟨g, rest, rfl, hg⟩ := h
  obtain ⟨hne, hhead⟩ := hupper g hg
  obtain ⟨c, more, hc⟩ := List.exists_cons_of_ne_nil hne
  rw [hc, List.head?_cons, ne_eq, Option.some_inj] at hhead
  rw [List.cons_append, Text.upper, List.flatMap_cons, hc, Text.startsWith, Bool.eq_false_iff, ne_eq,
    List.isPrefixOf_iff_prefix]
  intro hprefix
  exact hhead (List.cons_prefix_cons.1 hprefix).1.symm

namespace Plan

/-! ## Parentheses -/

/-- Does a text begin and end with a parenthesis? -/
def Enclosed (s : Text) : Prop :=
  ∃ inner : Text, s = "(" ++ inner ++ ")"

theorem enclosed_list (items : List Doc) : Enclosed (literalText (.list items)) :=
  ⟨_, rfl⟩

theorem not_enclosed_of_opens {s : Text} (h : Opens s) : ¬ Enclosed s := by
  rintro ⟨inner, rfl⟩
  obtain ⟨g, rest, hs, hg⟩ := h
  cases hs
  exact absurd hg (by decide)

theorem trim_enclosed {s : Text} (h : Enclosed s) : Text.trim s = s := by
  obtain ⟨inner, rfl⟩ := h
  have hopen : ("(" ++ inner ++ ")" : Text) = .char '(' :: inner ++ [.char ')'] := rfl
  rw [hopen, List.cons_append, Text.trim_cons (by decide), ← List.cons_append,
    Text.dropEndWhile_concat_of_not (by decide)]

theorem isListQuery_list (items : List Doc) : isListQuery (literalText (.list items)) = false := by
  have hselect : Text.startsWith "SELECT"
      (Text.upper (Text.join ", " (items.map constantText) ++ ")")) = false := by
    cases items with
    | nil => decide
    | cons d rest =>
      rw [List.map_cons]
      exact ((opens_constantText d).join ", " _).not_select ")"
  unfold isListQuery
  rw [trim_enclosed (enclosed_list items)]
  dsimp only
  have hupper : Text.upper (literalText (.list items)) =
      .char '(' :: Text.upper (Text.join ", " (items.map constantText) ++ ")") := rfl
  have hopened : Text.startsWith "(SELECT" (Text.upper (literalText (.list items))) = false := by
    rw [hupper]
    exact hselect
  have hplain : Text.startsWith "SELECT" (Text.upper (literalText (.list items))) = false := by
    rw [hupper]
    rfl
  rw [hopened, hplain, Bool.or_false, Bool.and_false]

/-! ## Comparisons with a set -/

/-- The operators that are tests of membership. -/
def membershipTests : List Text :=
  Text.ofStrings ["IN", "NOT IN"]

/-- The right side of a comparison stands for a set. -/
inductive SetOperand (operator : Text) (fields : List (Text × Doc)) : Prop where
  | given {items : List Doc} (htype : Doc.find? fields "type" = some (.text "LITERAL"))
      (hvalue : Doc.find? fields "value" = some (.list items)) (hlength : 2 ≤ items.length)
      (hoperator : operator ∈ Text.ofStrings ["=", "!=", "<>", "IN", "NOT IN"])
  | searched (htype : Doc.find? fields "type" = some (.text "SEMANTIC"))
      (hoperator : operator ∈ membershipTests)

/-- The test of membership that an operator asks for when its right side is a set. -/
def testFor (operator : Text) : Text :=
  if operator = "=" ∨ operator = "IN" then "IN" else "NOT IN"

/-- The text asks whether a value is in a list between parentheses, or is not. -/
def TestsMembership (operator left sql : Text) : Prop :=
  ∃ right, Enclosed right ∧ sql = "(" ++ left ++ " " ++ testFor operator ++ " " ++ right ++ ")"

section
variable {operator : Text} {operand : List (Text × Doc)}

theorem SetOperand.operator_mem (h : SetOperand operator operand) :
    operator ∈ Text.ofStrings ["=", "!=", "<>", "IN", "NOT IN"] := by
  have hmore : membershipTests ⊆ Text.ofStrings ["=", "!=", "<>", "IN", "NOT IN"] := by decide
  cases h with
  | given _ _ _ hoperator => exact hoperator
  | searched _ hoperator => exact hmore hoperator

theorem operatorText_membership (h : operator ∈ membershipTests) (right : Text) :
    operatorText (.text operator) right = operator := by
  have hother : ∀ t ∈ membershipTests, (Doc.text t).isText "=" = false ∧
      (Doc.text t).isOneOf (Text.ofStrings ["!=", "<>"]) = false := by decide
  obtain ⟨hequal, hunequal⟩ := hother operator h
  unfold operatorText
  by_cases hlist : isListQuery right = true
  · rw [if_pos hlist, hequal, if_neg Bool.false_ne_true]
    exact if_neg (Bool.eq_false_iff.1 hunequal)
  · exact if_neg hlist

/-- An operator before a set is written as it is, and only a given list is enclosed. -/
theorem operand_written (ctx : Context) (h : SetOperand operator operand) {right : Doc}
    {console console' : Text}
    (hrun : runIn (renderValue ctx (.text operator) (.ofDoc (.record operand))) console =
      (.ok right, console')) :
    operatorText (.text operator) right.display = operator ∧
      (Enclosed right.display ↔ Doc.find? operand "type" = some (.text "LITERAL")) := by
  cases h with
  | @given items htype hvalue =>
    rw [ofDoc_literal htype, part, hvalue, Option.getD_some, renderValue] at hrun
    cases hrun
    refine ⟨?_, fun _ => htype, fun _ => enclosed_list items⟩
    show operatorText (.text operator) (literalText (.list items)) = _
    rw [operatorText, isListQuery_list]
    rfl
  | searched htype hoperator =>
    refine ⟨operatorText_membership hoperator _, fun h => ?_, fun h => ?_⟩
    · rw [ofDoc_semantic htype, renderValue] at hrun
      obtain ⟨⟨found, c⟩, console₁, hsearch, hrun⟩ := run_bind_ok hrun
      cases hrun
      -- what is found begins with a value, and what stands in for it with a quote
      have hopens : Opens (found.getD ("'" ++ (part operand "value").display ++ "'")) := by
        cases found with
        | none => exact opens_quoted _
        | some text =>
          obtain ⟨first, rest, rfl⟩ := Vector.search_found hsearch
          have hhead := (Vector.selects_accepted (.text operator) first rest).head
          obtain ⟨more, hvalues⟩ := List.head?_eq_some_iff.1 hhead
          rw [hvalues, List.map_cons]
          exact (Vector.opens_valueText first.value).join ", " _
      exact absurd h (not_enclosed_of_opens hopens)
    · rw [htype] at h
      cases h

/-- A comparison that is rendered has both sides. -/
theorem comparison_rendered {ctx : Context} {fields : List (Text × Doc)}
    (hlogic : Doc.find? fields "logic" = none)
    (hoperator : Doc.find? fields "operator" = some (.text operator))
    (hright : Doc.find? fields "right" = some (.record operand)) {console console' sql : Text}
    (hrun : runIn (renderCondition ctx (.ofDoc (.record fields))) console = (.ok sql, console')) :
    ∃ node left right console₁, Doc.find? fields "left" = some node ∧
      runIn (renderValue ctx (.text operator) (.ofDoc node)) console = (.ok left, console₁) ∧
      runIn (renderValue ctx (.text operator) (.ofDoc (.record operand))) console₁ =
        (.ok right, console') ∧
      sql = compareText (.text operator) left right := by
  have hcondition : Condition.ofDoc (.record fields) = .compare (.text operator)
      (Reading.valueAt (Reading.ofFields fields) "left") (.ofDoc (.record operand)) := by
    show Reading.conditionOf (Reading.ofFields fields) = _
    unfold Reading.conditionOf
    simp only [Reading.find?_ofFields, hlogic, hoperator, Option.map_none, Option.map_some,
      source_ofDoc, Condition.compare.injEq, true_and]
    unfold Reading.valueAt
    rw [Reading.find?_ofFields, hright]
    rfl
  rw [hcondition, renderCondition] at hrun
  obtain ⟨left, console₁, hleft, hrun⟩ := run_bind_ok hrun
  obtain ⟨right, console₂, hright, hrun⟩ := run_bind_ok hrun
  cases hrun
  cases hnode : Doc.find? fields "left" with
  | none =>
    rw [Reading.valueAt, Reading.find?_ofFields, hnode] at hleft
    cases hleft
  | some node =>
    rw [Reading.valueAt, Reading.find?_ofFields, hnode] at hleft
    exact ⟨node, left, right, console₁, rfl, hleft, hright, rfl⟩

theorem testsMembership_iff
    (h : operator ∈ Text.ofStrings ["=", "!=", "<>", "IN", "NOT IN"]) (left right : Text) :
    TestsMembership operator left ("(" ++ left ++ " " ++ operator ++ " " ++ right ++ ")") ↔
      Enclosed right ∧ operator ∈ membershipTests := by
  -- the other three operators differ from the test they ask for in their first glyph
  have hkinds : ∀ t ∈ Text.ofStrings ["=", "!=", "<>", "IN", "NOT IN"],
      t ∈ membershipTests ∧ testFor t = t ∨
        t ∉ membershipTests ∧ t ≠ [] ∧ testFor t ≠ [] ∧ t.head? ≠ (testFor t).head? := by decide
  obtain ⟨htest, hsame⟩ | ⟨hother, hne, hne', hheads⟩ := hkinds operator h
  · simp [TestsMembership, hsame, htest]
  · constructor
    · rintro ⟨right', -, hsql⟩
      simp only [List.append_assoc, List.append_cancel_left_eq] at hsql
      have hfirst := congrArg List.head? hsql
      rw [List.head?_append_of_ne_nil _ hne, List.head?_append_of_ne_nil _ hne'] at hfirst
      exact absurd hfirst hheads
    · rintro ⟨-, htest⟩
      exact absurd htest hother

end

/-- A comparison with a set is written with the operator as it stands, and its right side is enclosed
in parentheses exactly if it is a list that is given. So it tests membership in a list exactly if the
list is given and the operator already is such a test. -/
theorem membership_of_given_lists {ctx : Context} {fields operand : List (Text × Doc)}
    {operator : Text} (hlogic : Doc.find? fields "logic" = none)
    (hoperator : Doc.find? fields "operator" = some (.text operator))
    (hright : Doc.find? fields "right" = some (.record operand)) (hset : SetOperand operator operand)
    {console console' sql : Text}
    (hrun : runIn (renderCondition ctx (.ofDoc (.record fields))) console = (.ok sql, console')) :
    ∃ node left right console₁, Doc.find? fields "left" = some node ∧
      runIn (renderValue ctx (.text operator) (.ofDoc node)) console = (.ok left, console₁) ∧
      runIn (renderValue ctx (.text operator) (.ofDoc (.record operand))) console₁ =
        (.ok right, console') ∧
      sql = "(" ++ left.display ++ " " ++ operator ++ " " ++ right.display ++ ")" ∧
      (Enclosed right.display ↔ Doc.find? operand "type" = some (.text "LITERAL")) ∧
      (TestsMembership operator left.display sql ↔
        Doc.find? operand "type" = some (.text "LITERAL") ∧ operator ∈ membershipTests) := by
  obtain ⟨node, left, right, console₁, hnode, hleft, hright, rfl⟩ :=
    comparison_rendered hlogic hoperator hright hrun
  obtain ⟨htext, henclosed⟩ := operand_written ctx hset hright
  refine ⟨node, left, right, console₁, hnode, hleft, hright, ?_, henclosed, ?_⟩
  · rw [compareText, htext]
  · rw [compareText, htext, testsMembership_iff hset.operator_mem, henclosed]

/-- A column compared with an operand. -/
def comparisonNode (operator : Text) (operand : List (Text × Doc)) : List (Text × Doc) :=
  [("left", .record [("type", .text "COLUMN"), ("value", .text "v")]), ("operator", .text operator),
    ("right", .record operand)]

def pairNode : List (Text × Doc) :=
  constantNode (.list [.text "a", .int 2])

theorem setOperand_pair {operator : Text}
    (h : operator ∈ Text.ofStrings ["=", "!=", "<>", "IN", "NOT IN"]) :
    SetOperand operator pairNode :=
  .given rfl rfl (Nat.le_refl 2) h

theorem membership_of_given_lists_excluded :
    runIn (renderCondition (context ⟨[]⟩ streetStore)
        (.ofDoc (.record (comparisonNode "NOT IN" pairNode)))) [] =
      (.ok "(v NOT IN ('a', 2))", []) ∧
    TestsMembership "NOT IN" "v" "(v NOT IN ('a', 2))" := by
  have hrun : runIn (renderCondition (context ⟨[]⟩ streetStore)
      (.ofDoc (.record (comparisonNode "NOT IN" pairNode)))) [] =
      (.ok "(v NOT IN ('a', 2))", []) := rfl
  obtain ⟨node, left, right, console, hnode, hleft, -, -, -, htests⟩ :=
    membership_of_given_lists rfl rfl rfl (setOperand_pair (by decide)) hrun
  cases hnode
  cases hleft
  exact ⟨hrun, htests.2 ⟨rfl, by decide⟩⟩

/-- A list is compared by equality, and what a search finds has no parentheses. -/
theorem sets_without_membership :
    (SetOperand "=" pairNode ∧
      (runIn (renderCondition (context ⟨[]⟩ streetStore)
        (.ofDoc (.record (comparisonNode "=" pairNode)))) []).1 = .ok "(v = ('a', 2))" ∧
      ¬ TestsMembership "=" "v" "(v = ('a', 2))") ∧
    SetOperand "IN" (namedNode "street") ∧
      (runIn (renderCondition (context ⟨[]⟩ streetStore)
        (.ofDoc (.record (comparisonNode "IN" (namedNode "street"))))) []).1 =
          .ok "(v IN 'Dlouha')" ∧
      ¬ TestsMembership "IN" "v" "(v IN 'Dlouha')" := by
  refine ⟨⟨setOperand_pair (by decide), rfl, fun h => ?_⟩, .searched rfl (by decide), rfl, fun h => ?_⟩
  · have htest := ((testsMembership_iff (by decide) "v" "('a', 2)").1 h).2
    exact absurd htest (by decide)
  · have henclosed := ((testsMembership_iff (by decide) "v" "'Dlouha'").1 h).1
    exact not_enclosed_of_opens (opens_quoted "Dlouha") henclosed

end Plan

end QueryBench
