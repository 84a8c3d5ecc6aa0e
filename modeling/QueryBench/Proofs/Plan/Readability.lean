import QueryBench.Proofs.Json.Numeral
import QueryBench.Proofs.Plan.Calls

/-!
# Conditions can be read back

Plain conditions compare and combine columns and whole numbers. Their text is put together from words,
blanks and parentheses, and no two plain conditions have the same text: from its start on, each part of
a text can be read in one way only.

Main definitions: `Plan.IsPlain` for documents, `Condition.Plain` for conditions, and their text
`Condition.text`. Main statement: `Plan.plain_conditions_readable`.
-/
set_option autoImplicit false

namespace QueryBench.Plan

/-! ## Plain conditions -/

/-- Is the glyph a letter? All glyphs beyond the first 128 codes count. -/
def isLetter (g : Glyph) : Bool :=
  (65 ≤ g.code && g.code ≤ 90) || (97 ≤ g.code && g.code ≤ 122) || 128 ≤ g.code

/-- Is the text a letter followed by letters, digits, underscores and points? -/
def IsIdentifier : Text → Prop
  | [] => False
  | first :: rest => isLetter first = true ∧
    ∀ g ∈ rest, isLetter g = true ∨ Json.isDigit g = true ∨ g = '_' ∨ g = '.'

instance : (s : Text) → Decidable (IsIdentifier s)
  | [] => inferInstanceAs (Decidable False)
  | first :: rest => inferInstanceAs (Decidable (isLetter first = true ∧
    ∀ g ∈ rest, isLetter g = true ∨ Json.isDigit g = true ∨ g = '_' ∨ g = '.'))

/-- The operators between plain operands. -/
def plainOperators : List Text :=
  Text.ofStrings ["=", "!=", "<>", ">", "<", ">=", "<=", "+", "-", "*", "/"]

/-- The words that join plain conditions. -/
def plainConnectives : List Text :=
  Text.ofStrings ["AND", "OR"]

/-- The places where a node can stand. -/
inductive Place where
  | operand
  | condition

/-- Is the document a plain node, at the given place? -/
inductive IsPlain : Place → Doc → Prop
  | column {fields : List (Text × Doc)} {name : Text}
      (htype : Doc.find? fields "type" = some (.text "COLUMN"))
      (hvalue : Doc.find? fields "value" = some (.text name)) (hname : IsIdentifier name) :
      IsPlain .operand (.record fields)
  | number {fields : List (Text × Doc)} {n : Int}
      (htype : Doc.find? fields "type" = some (.text "LITERAL"))
      (hvalue : Doc.find? fields "value" = some (.int n)) : IsPlain .operand (.record fields)
  | nested {fields : List (Text × Doc)} {d : Doc}
      (htype : Doc.find? fields "type" = some (.text "CONDITION"))
      (hvalue : Doc.find? fields "value" = some d) (hd : IsPlain .condition d) :
      IsPlain .operand (.record fields)
  | compare {fields : List (Text × Doc)} {operator : Text} {left right : Doc}
      (hlogic : Doc.find? fields "logic" = none)
      (hfind : Doc.find? fields "operator" = some (.text operator))
      (hoperator : operator ∈ plainOperators) (hfindLeft : Doc.find? fields "left" = some left)
      (hfindRight : Doc.find? fields "right" = some right) (hleft : IsPlain .operand left)
      (hright : IsPlain .operand right) : IsPlain .condition (.record fields)
  | group {fields : List (Text × Doc)} {connective : Text} {parts : List Doc}
      (hlogic : Doc.find? fields "logic" = some (.text connective))
      (hconnective : connective ∈ plainConnectives)
      (hfind : Doc.find? fields "conditions" = some (.list parts)) (hlength : 2 ≤ parts.length)
      (hparts : ∀ d ∈ parts, IsPlain .condition d) : IsPlain .condition (.record fields)

mutual

/-- Is the value a plain operand? -/
def Value.Plain : Value → Prop
  | .column (.text name) => IsIdentifier name
  | .literal (.int _) => True
  | .condition c => c.Plain
  | _ => False

/-- Is the condition plain? -/
def Condition.Plain : Condition → Prop
  | .compare (.text operator) left right => operator ∈ plainOperators ∧ left.Plain ∧ right.Plain
  | .group (.text connective) parts =>
    connective ∈ plainConnectives ∧ 2 ≤ parts.length ∧ Condition.AllPlain parts
  | _ => False

/-- Are all conditions of a list plain? -/
def Condition.AllPlain : List Condition → Prop
  | [] => True
  | c :: rest => c.Plain ∧ Condition.AllPlain rest

end

theorem Condition.allPlain_iff {cs : List Condition} : Condition.AllPlain cs ↔ ∀ c ∈ cs, c.Plain := by
  induction cs with
  | nil => exact ⟨fun _ => nofun, fun _ => trivial⟩
  | cons c rest ih => rw [Condition.AllPlain, ih, List.forall_mem_cons]

/-- What stands at a place in a document, if it is plain, is read as a plain operand or condition. -/
def Place.ReadPlain (d : Doc) : Place → Prop
  | .operand => (Value.ofDoc d).Plain
  | .condition => (Condition.ofDoc d).Plain

theorem valueOf_ofFields {fields : List (Text × Doc)} {type : Text}
    (htype : Doc.find? fields "type" = some (.text type)) :
    Value.ofDoc (.record fields) = Reading.valueOf (Reading.ofFields fields) := by
  cases fields with
  | nil => cases htype
  | cons f rest => rfl

theorem IsPlain.read {place : Place} {d : Doc} (h : IsPlain place d) : place.ReadPlain d := by
  induction h with
  | @column fields name htype hvalue hname =>
    show (Value.ofDoc (.record fields)).Plain
    rw [valueOf_ofFields htype]
    unfold Reading.valueOf
    rw [sourceAt_ofFields, htype, sourceAt_ofFields, hvalue]
    exact hname
  | @number fields n htype hvalue =>
    show (Value.ofDoc (.record fields)).Plain
    rw [valueOf_ofFields htype]
    unfold Reading.valueOf
    rw [sourceAt_ofFields, htype, sourceAt_ofFields, hvalue]
    trivial
  | @nested fields d htype hvalue _ ih =>
    show (Value.ofDoc (.record fields)).Plain
    rw [valueOf_ofFields htype]
    unfold Reading.valueOf
    rw [sourceAt_ofFields, htype, Reading.find?_ofFields, hvalue]
    exact ih
  | @compare fields operator left right hlogic hfind hoperator hfindLeft hfindRight _ _ hleft hright =>
    show (Reading.conditionOf (Reading.ofFields fields)).Plain
    unfold Reading.conditionOf Reading.valueAt
    simp only [Reading.find?_ofFields, hlogic, hfind, hfindLeft, hfindRight, Option.map_none,
      Option.map_some, source_ofDoc]
    exact ⟨hoperator, hleft, hright⟩
  | @group fields connective parts hlogic hconnective hfind hlength _ ih =>
    show (Reading.conditionOf (Reading.ofFields fields)).Plain
    unfold Reading.conditionOf
    simp only [Reading.find?_ofFields, hlogic, hfind, Option.map_some, source_ofDoc]
    rw [Reading.ofDoc]
    show connective ∈ plainConnectives ∧ _ ∧ Condition.AllPlain _
    rw [Reading.ofItems_eq_map, List.map_map, List.length_map, Condition.allPlain_iff]
    exact ⟨hconnective, hlength, List.forall_mem_map.2 ih⟩

/-! ## Their text -/

mutual

/-- The text of a plain operand. -/
def Value.text : Value → Text
  | .column name => name.display
  | .literal content => content.display
  | .condition c => c.text
  | _ => []

/-- The text of a plain condition. -/
def Condition.text : Condition → Text
  | .compare operator left right =>
    "(" ++ left.text ++ " " ++ operator.display ++ " " ++ right.text ++ ")"
  | .group connective parts =>
    "(" ++ Text.join (" " ++ connective.display ++ " ") (Condition.texts parts) ++ ")"
  | .faulty _ => []

def Condition.texts : List Condition → List Text
  | [] => []
  | c :: rest => c.text :: Condition.texts rest

end

/-- Is the glyph none of those that stand between words? -/
def isInner (g : Glyph) : Bool :=
  g ∉ [Glyph.char ' ', Glyph.char ',', Glyph.char '(', Glyph.char ')']

/-- Is the text a word, with nothing in it that stands between words? -/
def IsWord (s : Text) : Prop :=
  s ≠ [] ∧ ∀ g ∈ s, isInner g = true

instance (s : Text) : Decidable (IsWord s) :=
  inferInstanceAs (Decidable (s ≠ [] ∧ ∀ g ∈ s, isInner g = true))

theorem operator_ne_connective : ∀ s ∈ plainOperators, s ∉ plainConnectives := by decide

theorem isWord_of_operator : ∀ s ∈ plainOperators, IsWord s := by decide

theorem isWord_of_connective : ∀ s ∈ plainConnectives, IsWord s := by decide

theorem isInner_of {p : Glyph → Bool}
    (hp : ∀ other ∈ [Glyph.char ' ', Glyph.char ',', Glyph.char '(', Glyph.char ')'], p other = false)
    {g : Glyph} (hg : p g = true) : isInner g = true :=
  decide_eq_true fun hother => Bool.false_ne_true ((hp g hother).symm.trans hg)

theorem IsIdentifier.isWord {s : Text} (hs : IsIdentifier s) : IsWord s := by
  cases s with
  | nil => exact hs.elim
  | cons first rest =>
    have hletter {g : Glyph} (hg : isLetter g = true) : isInner g = true := isInner_of (by decide) hg
    refine ⟨nofun, List.forall_mem_cons.2 ⟨hletter hs.1, fun g hg => ?_⟩⟩
    rcases hs.2 g hg with h | h | rfl | rfl
    · exact hletter h
    · exact isInner_of (by decide) h
    · decide
    · decide

/-- A whole number is written with digits, behind a sign if it is negative. -/
theorem text_int (n : Int) : Text.ofString (toString n) =
    (if n < 0 then [Glyph.char '-'] else []) ++ (Nat.toDigits 10 n.natAbs).map .char := by
  rw [← Json.intSpelling_text]
  simp [Json.Spelling.text, Json.Spelling.fractionText, Json.Spelling.exponentText, Json.intSpelling]

theorem text_int_ne_nil (n : Int) : Text.ofString (toString n) ≠ [] := by
  rw [text_int]
  exact fun h => Nat.toDigits_ne_nil (List.map_eq_nil_iff.1 (List.append_eq_nil_iff.1 h).2)

theorem glyphs_int (n : Int) : ∀ g ∈ Text.ofString (toString n), g = '-' ∨ Json.isDigit g = true := by
  intro g hg
  rw [text_int] at hg
  obtain hg | hg := List.mem_append.1 hg
  · left
    split at hg
    · exact List.mem_singleton.1 hg
    · cases hg
  · exact .inr (Json.isDigit_of_mem_toDigits hg)

theorem isWord_int (n : Int) : IsWord (Text.ofString (toString n)) := by
  refine ⟨text_int_ne_nil n, fun g hg => ?_⟩
  rcases glyphs_int n g hg with rfl | h
  · decide
  · exact isInner_of (by decide) h

/-! ## Rendering -/

theorem mem_join {g : Glyph} {separator : Text} {texts : List Text}
    (h : g ∈ Text.join separator texts) : g ∈ separator ∨ ∃ s ∈ texts, g ∈ s := by
  induction texts with
  | nil => cases h
  | cons first rest ih =>
    cases rest with
    | nil => exact .inr ⟨first, List.mem_cons_self, by simpa [Text.join] using h⟩
    | cons second rest =>
      rw [Text.join, List.intercalate_cons_cons, List.mem_append, List.mem_append] at h
      obtain (h | h) | h := h
      · exact .inr ⟨first, List.mem_cons_self, h⟩
      · exact .inl h
      · obtain hg | ⟨s, hs, hg⟩ := ih h
        · exact .inl hg
        · exact .inr ⟨s, List.mem_cons_of_mem first hs, hg⟩

theorem IsWord.comma_not_mem {s : Text} (hs : IsWord s) : .char ',' ∉ s :=
  fun h => absurd (hs.2 _ h) (by decide)

mutual

theorem comma_not_mem_value {v : Value} (hv : v.Plain) : .char ',' ∉ v.text := by
  match v with
  | .column (.text name) =>
    rw [Value.text]
    exact IsWord.comma_not_mem (IsIdentifier.isWord (s := name) hv)
  | .literal (.int n) =>
    rw [Value.text]
    exact (isWord_int n).comma_not_mem
  | .condition c =>
    rw [Value.text]
    exact comma_not_mem_condition hv

theorem comma_not_mem_condition {c : Condition} (hc : c.Plain) : .char ',' ∉ c.text := by
  match c with
  | .compare (.text operator) left right =>
    obtain ⟨hoperator, hleft, hright⟩ := hc
    have hword := (isWord_of_operator operator hoperator).comma_not_mem
    rw [Condition.text]
    simp only [List.mem_append, not_or]
    exact ⟨⟨⟨⟨⟨⟨by decide, comma_not_mem_value hleft⟩, by decide⟩, hword⟩, by decide⟩,
      comma_not_mem_value hright⟩, by decide⟩
  | .group (.text connective) parts =>
    obtain ⟨hconnective, -, hparts⟩ := hc
    have hword := (isWord_of_connective connective hconnective).comma_not_mem
    rw [Condition.text]
    simp only [List.mem_append, not_or]
    refine ⟨⟨by decide, fun h => ?_⟩, by decide⟩
    obtain h | ⟨s, hs, h⟩ := mem_join h
    · simp only [List.mem_append] at h
      exact h.elim (fun h => h.elim (by decide) hword) (by decide)
    · exact comma_not_mem_conditions hparts s hs h

theorem comma_not_mem_conditions {cs : List Condition} (hcs : Condition.AllPlain cs) :
    ∀ s ∈ Condition.texts cs, .char ',' ∉ s := by
  match cs with
  | [] => exact nofun
  | c :: rest =>
    rw [Condition.texts]
    exact List.forall_mem_cons.2 ⟨comma_not_mem_condition hcs.1, comma_not_mem_conditions hcs.2⟩

end

/-- Without a comma on its right side an operator is written as it is. -/
theorem operatorText_of_not_mem {operator : Doc} {right : Text} (h : .char ',' ∉ right) :
    operatorText operator right = operator.display := by
  have hlist : isListQuery right = false := by
    unfold isListQuery
    rw [Bool.and_eq_false_iff, Bool.and_eq_false_iff]
    refine .inl (.inl (Bool.eq_false_iff.2 fun hcontains => h ?_))
    exact (Text.contains_iff.1 hcontains).subset List.mem_cons_self
  rw [operatorText, hlist]
  rfl

section
variable (ctx : Context)

mutual

theorem yields_renderValue (operator : Doc) {v : Value} (hv : v.Plain) :
    ∃ d, Yields (renderValue ctx operator v) (.ok d) ∧ d.display = v.text := by
  match v with
  | .column (.text name) =>
    rw [renderValue]
    exact ⟨_, .pure _, rfl⟩
  | .literal (.int n) =>
    rw [renderValue]
    exact ⟨_, .pure _, rfl⟩
  | .condition c =>
    rw [renderValue]
    exact ⟨_, (yields_renderCondition hv).bind_ok (.pure _), rfl⟩

/-- Rendering a plain condition gives its text. -/
theorem yields_renderCondition {c : Condition} (hc : c.Plain) :
    Yields (renderCondition ctx c) (.ok c.text) := by
  match c with
  | .compare (.text operator) left right =>
    obtain ⟨-, hleft, hright⟩ := hc
    obtain ⟨dleft, hyieldsLeft, htextLeft⟩ := yields_renderValue (.text operator) hleft
    obtain ⟨dright, hyieldsRight, htextRight⟩ := yields_renderValue (.text operator) hright
    rw [renderCondition]
    refine hyieldsLeft.bind_ok (hyieldsRight.bind_ok ?_)
    rw [compareText, htextLeft, htextRight,
      operatorText_of_not_mem (comma_not_mem_value hright), Condition.text]
    exact .pure _
  | .group (.text connective) parts =>
    rw [renderCondition, Condition.text]
    exact (yields_renderConditions hc.2.2).bind_ok (.pure _)

theorem yields_renderConditions {cs : List Condition} (hcs : Condition.AllPlain cs) :
    Yields (renderConditions ctx cs) (.ok (Condition.texts cs)) := by
  match cs with
  | [] =>
    rw [renderConditions]
    exact .pure _
  | c :: rest =>
    rw [renderConditions]
    exact (yields_renderCondition hcs.1).bind_ok ((yields_renderConditions hcs.2).bind_ok (.pure _))

end

end

/-! ## Reading back -/

/-- Does the text start with a glyph that ends a word? -/
def Stops (s : Text) : Prop :=
  ∃ g rest, s = g :: rest ∧ isInner g = false

theorem stops_blank (s : Text) : Stops (" " ++ s) :=
  ⟨_, s, rfl, by decide⟩

theorem stops_closing (s : Text) : Stops (")" ++ s) :=
  ⟨_, s, rfl, by decide⟩

/-- A word ends where the text behind it stops. -/
theorem word_inj {s s' r r' : Text} (hs : IsWord s) (hs' : IsWord s') (hr : Stops r) (hr' : Stops r')
    (h : s ++ r = s' ++ r') : s = s' ∧ r = r' := by
  have htake {s r : Text} (hs : IsWord s) (hr : Stops r) : (s ++ r).takeWhile isInner = s := by
    obtain ⟨g, rest, rfl, hg⟩ := hr
    rw [List.takeWhile_append_of_pos hs.2, List.takeWhile_cons_of_neg (by simp [hg]), List.append_nil]
  have heq : s = s' := by rw [← htake hs hr, h, htake hs' hr']
  subst heq
  exact ⟨rfl, List.append_cancel_left h⟩

/-- The text of the conditions behind the first one of a group. -/
def Condition.behind (connective : Text) (cs : List Condition) : Text :=
  cs.flatMap fun c => " " ++ (connective ++ (" " ++ c.text))

theorem text_compare (operator : Text) (left right : Value) (r : Text) :
    (Condition.compare (.text operator) left right).text ++ r =
      "(" ++ (left.text ++ (" " ++ (operator ++ (" " ++ (right.text ++ (")" ++ r)))))) := by
  rw [Condition.text]
  simp only [List.append_assoc]
  rfl

theorem text_group (connective : Text) (c : Condition) (cs : List Condition) (r : Text) :
    (Condition.group (.text connective) (c :: cs)).text ++ r =
      "(" ++ (c.text ++ (Condition.behind connective cs ++ (")" ++ r))) := by
  have hjoin : Text.join (" " ++ connective ++ " ") (Condition.texts (c :: cs)) =
      c.text ++ Condition.behind connective cs := by
    induction cs generalizing c with
    | nil => simp [Condition.texts, Text.join, Condition.behind]
    | cons second cs ih =>
      rw [Condition.texts, Condition.texts, Text.join, List.intercalate_cons_cons]
      have h := ih second
      rw [Condition.texts, Text.join] at h
      rw [h, Condition.behind, Condition.behind, List.flatMap_cons]
      simp only [List.append_assoc]
  rw [Condition.text]
  show "(" ++ Text.join (" " ++ connective ++ " ") (Condition.texts (c :: cs)) ++ ")" ++ r = _
  rw [hjoin]
  simp only [List.append_assoc]

theorem behind_cons (connective : Text) (c : Condition) (cs : List Condition) (r : Text) :
    Condition.behind connective (c :: cs) ++ r =
      " " ++ (connective ++ (" " ++ (c.text ++ (Condition.behind connective cs ++ r)))) := by
  simp only [Condition.behind, List.flatMap_cons, List.append_assoc]

theorem stops_behind (connective : Text) (cs : List Condition) (r : Text) :
    Stops (Condition.behind connective cs ++ (")" ++ r)) := by
  cases cs with
  | nil => exact stops_closing r
  | cons c cs =>
    rw [behind_cons]
    exact stops_blank _

/-- A plain condition opens with a parenthesis, and no other operand does. -/
theorem ne_opening_of_word {s r r' : Text} (hs : IsWord s) : s ++ r ≠ "(" ++ r' := by
  intro h
  cases s with
  | nil => exact hs.1 rfl
  | cons g s =>
    obtain rfl : g = .char '(' := (List.cons.inj h).1
    exact absurd (hs.2 _ List.mem_cons_self) (by decide)

theorem opens {c : Condition} (hc : c.Plain) (r : Text) : ∃ r', c.text ++ r = "(" ++ r' := by
  match c with
  | .compare (.text operator) left right => exact ⟨_, text_compare operator left right r⟩
  | .group (.text connective) (c :: cs) => exact ⟨_, text_group connective c cs r⟩

theorem column_ne_number {n : Int} (h : IsIdentifier (Text.ofString (toString n))) : False := by
  have hglyphs := glyphs_int n
  generalize Text.ofString (toString n) = s at h hglyphs
  cases s with
  | nil => exact h
  | cons g s =>
    have hletter : isLetter g = true := h.1
    rcases hglyphs g List.mem_cons_self with rfl | hdigit
    · exact absurd hletter (by decide)
    · have hzero : '0'.toNat = 48 := rfl
      have hnine : '9'.toNat = 57 := rfl
      simp only [isLetter, Json.isDigit, hzero, hnine, Bool.or_eq_true, Bool.and_eq_true,
        decide_eq_true_eq] at hletter hdigit
      omega

theorem number_inj {m n : Int} (h : Text.ofString (toString m) = Text.ofString (toString n)) :
    m = n := by
  have hsign {a b : Nat} :
      Glyph.char '-' :: (Nat.toDigits 10 a).map .char ≠ (Nat.toDigits 10 b).map Glyph.char := by
    intro h
    have hdigit := Json.isDigit_of_mem_toDigits (h ▸ List.mem_cons_self)
    exact absurd hdigit (by decide)
  have hdigits {a b : Nat} (h : (Nat.toDigits 10 a).map Glyph.char = (Nat.toDigits 10 b).map .char) :
      a = b := by
    have hlist := List.map_injective_iff.2 (fun _ _ => Glyph.char.inj) h
    rw [← Nat.ofDigitChars_ten_toDigits (n := a), hlist, Nat.ofDigitChars_ten_toDigits]
  rw [text_int, text_int] at h
  split at h <;> split at h
  · have := hdigits (List.cons.inj h).2
    omega
  · exact absurd h hsign
  · exact absurd h.symm hsign
  · have := hdigits h
    omega

/-- Is there one way only to read the condition at the start of a text? -/
def Condition.Readable (c : Condition) : Prop :=
  ∀ c' : Condition, c'.Plain → ∀ r r', c.text ++ r = c'.text ++ r' → c = c' ∧ r = r'

/-- A condition is the only operand that can be read where it is the only condition. -/
theorem Condition.Readable.operand {c : Condition} (hread : c.Readable) (hc : c.Plain) {v : Value}
    (hv : v.Plain) {r r' : Text} (h : c.text ++ r = v.text ++ r') :
    v = .condition c ∧ r = r' := by
  obtain ⟨behind, hopen⟩ := opens hc r
  match v with
  | .column (.text name) =>
    exact absurd (h.symm.trans hopen) (ne_opening_of_word (IsIdentifier.isWord (s := name) hv))
  | .literal (.int n) => exact absurd (h.symm.trans hopen) (ne_opening_of_word (isWord_int n))
  | .condition c' =>
    obtain ⟨rfl, hr⟩ := hread c' hv r r' h
    exact ⟨rfl, hr⟩

mutual

theorem value_inj {v v' : Value} (hv : v.Plain) (hv' : v'.Plain) {r r' : Text} (hr : Stops r)
    (hr' : Stops r') (h : v.text ++ r = v'.text ++ r') : v = v' ∧ r = r' := by
  -- the first glyph tells the kinds apart: a parenthesis, a letter, or a digit or sign
  match v with
  | .condition c =>
    obtain ⟨rfl, hrest⟩ := Condition.Readable.operand (c := c)
      (fun c' hc' r r' h => condition_inj hv hc' h) hv hv' h
    exact ⟨rfl, hrest⟩
  | .column (.text name) =>
    have hname := IsIdentifier.isWord (s := name) hv
    match v' with
    | .column (.text name') =>
      obtain ⟨rfl, hrest⟩ := word_inj hname (IsIdentifier.isWord (s := name') hv') hr hr' h
      exact ⟨rfl, hrest⟩
    | .literal (.int n) =>
      obtain ⟨rfl, -⟩ := word_inj hname (isWord_int n) hr hr' h
      exact (column_ne_number hv).elim
    | .condition c =>
      obtain ⟨behind, hopen⟩ := opens (c := c) hv' r'
      exact absurd (h.trans hopen) (ne_opening_of_word hname)
  | .literal (.int n) =>
    match v' with
    | .column (.text name) =>
      obtain ⟨heq, -⟩ := word_inj (isWord_int n) (IsIdentifier.isWord (s := name) hv') hr hr' h
      exact (column_ne_number (n := n) (heq ▸ hv')).elim
    | .literal (.int n') =>
      obtain ⟨heq, hrest⟩ := word_inj (isWord_int n) (isWord_int n') hr hr' h
      exact ⟨by rw [number_inj heq], hrest⟩
    | .condition c =>
      obtain ⟨behind, hopen⟩ := opens (c := c) hv' r'
      exact absurd (h.trans hopen) (ne_opening_of_word (isWord_int n))

theorem condition_inj {c c' : Condition} (hc : c.Plain) (hc' : c'.Plain) {r r' : Text}
    (h : c.text ++ r = c'.text ++ r') : c = c' ∧ r = r' := by
  match c with
  | .compare (.text operator) left right =>
    obtain ⟨hoperator, hleft, hright⟩ := hc
    have hword := isWord_of_operator operator hoperator
    rw [text_compare] at h
    match c' with
    | .compare (.text operator') left' right' =>
      obtain ⟨hoperator', hleft', hright'⟩ := hc'
      rw [text_compare] at h
      obtain ⟨rfl, hbehind⟩ := value_inj hleft hleft' (stops_blank _) (stops_blank _)
        (List.append_cancel_left h)
      obtain ⟨rfl, hoperand⟩ := word_inj hword (isWord_of_operator operator' hoperator')
        (stops_blank _) (stops_blank _) (List.append_cancel_left hbehind)
      obtain ⟨rfl, hclosing⟩ := value_inj hright hright' (stops_closing _) (stops_closing _)
        (List.append_cancel_left hoperand)
      exact ⟨rfl, List.append_cancel_left hclosing⟩
    | .group (.text connective) (first :: second :: rest) =>
      -- both have a word behind their first part, but no operator is a connective
      obtain ⟨hconnective, -, hfirst, -⟩ := hc'
      rw [text_group] at h
      have hoperand : (Value.condition first).Plain := hfirst
      obtain ⟨-, hbehind⟩ := value_inj hleft hoperand (stops_blank _) (stops_behind _ _ _)
        (List.append_cancel_left h)
      rw [behind_cons] at hbehind
      obtain ⟨rfl, -⟩ := word_inj hword (isWord_of_connective connective hconnective)
        (stops_blank _) (stops_blank _) (List.append_cancel_left hbehind)
      exact absurd hconnective (operator_ne_connective _ hoperator)
  | .group (.text connective) (first :: second :: rest) =>
    obtain ⟨hconnective, -, hfirst, hrest⟩ := hc
    have hword := isWord_of_connective connective hconnective
    rw [text_group] at h
    match c' with
    | .compare (.text operator) left right =>
      obtain ⟨hoperator, hleft, -⟩ := hc'
      rw [text_compare] at h
      obtain ⟨-, hbehind⟩ := Condition.Readable.operand (c := first)
        (fun c' hc' r r' h => condition_inj hfirst hc' h) hfirst hleft (List.append_cancel_left h)
      rw [behind_cons] at hbehind
      obtain ⟨rfl, -⟩ := word_inj hword (isWord_of_operator operator hoperator)
        (stops_blank _) (stops_blank _) (List.append_cancel_left hbehind)
      exact absurd hconnective (operator_ne_connective _ hoperator)
    | .group (.text connective') (first' :: second' :: rest') =>
      obtain ⟨hconnective', -, hfirst', hrest'⟩ := hc'
      rw [text_group] at h
      obtain ⟨rfl, hbehind⟩ := condition_inj hfirst hfirst' (List.append_cancel_left h)
      have hwords := hbehind
      rw [behind_cons, behind_cons] at hwords
      obtain ⟨rfl, -⟩ := word_inj hword (isWord_of_connective connective' hconnective')
        (stops_blank _) (stops_blank _) (List.append_cancel_left hwords)
      obtain ⟨hlist, hclosing⟩ := conditions_inj hrest hrest' hbehind
      exact ⟨by rw [hlist], hclosing⟩

theorem conditions_inj {connective : Text} {cs cs' : List Condition} (hcs : Condition.AllPlain cs)
    (hcs' : Condition.AllPlain cs') {r r' : Text}
    (h : Condition.behind connective cs ++ (")" ++ r) =
      Condition.behind connective cs' ++ (")" ++ r')) :
    cs = cs' ∧ r = r' := by
  match cs, cs' with
  | [], [] => exact ⟨rfl, List.append_cancel_left h⟩
  | [], c' :: rest' =>
    rw [behind_cons] at h
    exact absurd (List.cons.inj h).1 (by decide)
  | c :: rest, [] =>
    rw [behind_cons] at h
    exact absurd (List.cons.inj h).1 (by decide)
  | c :: rest, c' :: rest' =>
    rw [behind_cons, behind_cons] at h
    obtain ⟨rfl, hbehind⟩ := condition_inj hcs.1 hcs'.1 (List.append_cancel_left
      (List.append_cancel_left (List.append_cancel_left h)))
    obtain ⟨rfl, hclosing⟩ := conditions_inj hcs.2 hcs'.2 hbehind
    exact ⟨rfl, hclosing⟩

end

/-- Two plain conditions are rendered to the same text only if they are the same condition. -/
theorem plain_conditions_readable {d d' : Doc} (hd : IsPlain .condition d) (hd' : IsPlain .condition d')
    (ctx ctx' : Context) : ∃ text text',
      Yields (renderCondition ctx (.ofDoc d)) (.ok text) ∧
      Yields (renderCondition ctx' (.ofDoc d')) (.ok text') ∧
      (text = text' ↔ Condition.ofDoc d = Condition.ofDoc d') := by
  have hc : (Condition.ofDoc d).Plain := hd.read
  have hc' : (Condition.ofDoc d').Plain := hd'.read
  refine ⟨_, _, yields_renderCondition ctx hc, yields_renderCondition ctx' hc', fun h => ?_,
    fun h => congrArg Condition.text h⟩
  exact (condition_inj hc hc' (congrArg (· ++ []) h)).1

/-- A column, as it stands in a plan. -/
def columnNode (name : Text) : Doc :=
  .record [("type", .text "COLUMN"), ("value", .text name)]

def numberNode (n : Int) : Doc :=
  .record [("type", .text "LITERAL"), ("value", .int n)]

def nestedNode (condition : Doc) : Doc :=
  .record [("type", .text "CONDITION"), ("value", condition)]

/-- A comparison, as it stands in a plan. -/
def compareNode (operator : Text) (left right : Doc) : Doc :=
  .record [("left", left), ("operator", .text operator), ("right", right)]

/-- The condition `((select - 1) = a.b)`. -/
def nestedLeft : Doc :=
  compareNode "=" (nestedNode (compareNode "-" (columnNode "select") (numberNode 1))) (columnNode "a.b")

/-- The same words with the parentheses at other places: `(select - (1 = a.b))`. -/
def nestedRight : Doc :=
  compareNode "-" (columnNode "select") (nestedNode (compareNode "=" (numberNode 1) (columnNode "a.b")))

theorem isPlain_nestedNode {d : Doc} (hd : IsPlain .condition d) : IsPlain .operand (nestedNode d) :=
  .nested rfl rfl hd

theorem isPlain_compareNode {operator : Text} {left right : Doc} (hoperator : operator ∈ plainOperators)
    (hleft : IsPlain .operand left) (hright : IsPlain .operand right) :
    IsPlain .condition (compareNode operator left right) :=
  .compare rfl rfl hoperator rfl rfl hleft hright

theorem plain_conditions_readable_nested :
    IsPlain .condition nestedLeft ∧ IsPlain .condition nestedRight ∧ ∃ text text',
      Yields (renderCondition (context ⟨[]⟩ ⟨[]⟩) (.ofDoc nestedLeft)) (.ok text) ∧
      Yields (renderCondition (context ⟨[]⟩ ⟨[]⟩) (.ofDoc nestedRight)) (.ok text') ∧
      (text = text' ↔ Condition.ofDoc nestedLeft = Condition.ofDoc nestedRight) := by
  have hselect : IsPlain .operand (columnNode "select") := .column rfl rfl (by decide)
  have hcolumn : IsPlain .operand (columnNode "a.b") := .column rfl rfl (by decide)
  have hnumber : IsPlain .operand (numberNode 1) := .number rfl rfl
  have hleft : IsPlain .condition nestedLeft := isPlain_compareNode (by decide)
    (isPlain_nestedNode (isPlain_compareNode (by decide) hselect hnumber)) hcolumn
  have hright : IsPlain .condition nestedRight := isPlain_compareNode (by decide) hselect
    (isPlain_nestedNode (isPlain_compareNode (by decide) hnumber hcolumn))
  exact ⟨hleft, hright, plain_conditions_readable hleft hright _ _⟩

end QueryBench.Plan
