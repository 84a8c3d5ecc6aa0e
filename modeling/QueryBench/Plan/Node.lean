import QueryBench.Doc.Access
import QueryBench.Text.Case

/-!
# Values and conditions of a plan

A plan is written by a model and may be malformed anywhere. Reading it never fails: a malformed
part becomes a `faulty` node that carries the fault, which shows only if the part is used.

Main definitions: `Value`, `Condition`, `Value.ofDoc`, `Condition.ofDoc`.
-/
set_option autoImplicit false

namespace QueryBench.Plan

mutual

/-- A value in a query. -/
inductive Value where
  | null
  | literal (content : Doc)
  | column (name : Doc)
  | call (name : Text) (arguments : List Value)
  | choice (arms : List Arm) (otherwise : Option Value)
  | condition (c : Condition)
  /-- A term to be searched for in a column. -/
  | semantic (table column term : Doc)
  | subquery (task : Doc)
  | faulty (fault : Fault)

/-- A case of a choice: the value to test and the value to take. -/
inductive Arm where
  | mk (test result : Value)

/-- A condition in a query. -/
inductive Condition where
  | group (connective : Doc) (parts : List Condition)
  | compare (operator : Doc) (left right : Value)
  | faulty (fault : Fault)

end

/-- The ways to read a document as a part of a plan. -/
structure Reading where
  source : Doc
  value : Value
  condition : Condition
  arm : Arm
  values : Except Fault (List Value)
  conditions : Except Fault (List Condition)
  arms : Except Fault (List Arm)

abbrev Fields := List (Text × Reading)

namespace Reading

/-- The reading of a field; a key occurs at most once. -/
def find? (fields : Fields) (key : Text) : Option Reading :=
  fields.lookup key

/-- A field read as a value; a missing one is a fault. -/
def valueAt (fields : Fields) (key : Text) : Value :=
  match find? fields key with
  | some r => r.value
  | none => .faulty (.missingKey (.text key))

def sourceAt (fields : Fields) (key : Text) : Doc :=
  ((find? fields key).map Reading.source).getD .null

/-- A function call: its name comes in upper case. -/
def callOf (fields : Fields) : Value :=
  match (((find? fields "name").map Reading.source).getD (.text "")).textFor "upper",
      ((find? fields "params").map Reading.values).getD (.ok []) with
  | .error fault, _ => .faulty fault
  | .ok _, .error fault => .faulty fault
  | .ok name, .ok arguments => .call (Text.upper name) arguments

def choiceOf (fields : Fields) : Value :=
  match ((find? fields "cases").map Reading.arms).getD (.ok []) with
  | .error fault => .faulty fault
  | .ok arms => .choice arms ((find? fields "else").map Reading.value)

def valueOf (fields : Fields) : Value :=
  match sourceAt fields "type" with
  | .text type =>
    if type = "LITERAL" then .literal (sourceAt fields "value")
    else if type = "COLUMN" then .column (sourceAt fields "value")
    else if type = "FUNCTION" then callOf fields
    else if type = "CASE" then choiceOf fields
    else if type = "CONDITION" then
      .condition (((find? fields "value").map Reading.condition).getD
        (.faulty (.notSearchable .null)))
    else if type = "SEMANTIC" then
      .semantic (sourceAt fields "table") (sourceAt fields "column") (sourceAt fields "value")
    else if type = "SUBQUERY" then .subquery (sourceAt fields "target_task_id")
    else .null
  | _ => .null

/-- A record read as a condition: one with a connective groups others. -/
def conditionOf (fields : Fields) : Condition :=
  match find? fields "logic" with
  | some connective => match find? fields "conditions" with
    | none => .faulty (.missingKey (.text "conditions"))
    | some parts => match parts.conditions with
      | .error fault => .faulty fault
      | .ok conditions => .group connective.source conditions
  | none => match find? fields "operator" with
    | none => .faulty (.missingKey (.text "operator"))
    | some operator => .compare operator.source (valueAt fields "left") (valueAt fields "right")

def faultyArm (fault : Fault) : Arm :=
  .mk (.faulty fault) (.faulty fault)

def ofText (s : Text) : Reading where
  source := .text s
  value := if s.isEmpty then .null else .faulty (.noAttribute .text "get")
  condition := .faulty (.textIndex .text)
  arm := faultyArm (.textIndex .text)
  values := .ok (s.map fun _ => .faulty (.noAttribute .text "get"))
  conditions := .ok (s.map fun _ => .faulty (.textIndex .text))
  arms := .ok (s.map fun _ => faultyArm (.textIndex .text))

/-- A document that is neither a text, a list nor a record. -/
def ofAtom (d : Doc) : Reading where
  source := d
  value := if d.isVoid then .null else .faulty (.noAttribute d.kind "get")
  condition := .faulty (.notSearchable d.kind)
  arm := faultyArm (.notSubscriptable d.kind)
  values := .error (.notIterable d.kind)
  conditions := .error (.notIterable d.kind)
  arms := .error (.notIterable d.kind)

def ofList (items : List Doc) (readings : List Reading) : Reading where
  source := .list items
  value := if items.isEmpty then .null else .faulty (.noAttribute .list "get")
  condition := .faulty (.listIndex .text)
  arm := faultyArm (.listIndex .text)
  values := .ok (readings.map Reading.value)
  conditions := .ok (readings.map Reading.condition)
  arms := .ok (readings.map Reading.arm)

/-- A record with the readings of its fields; used as a list it is the list of its keys. -/
def ofRecord (fields : List (Text × Doc)) (readings : Fields) : Reading where
  source := .record fields
  value := if fields.isEmpty then .null else valueOf readings
  condition := conditionOf readings
  arm := .mk (valueAt readings "when") (valueAt readings "then")
  values := .ok (fields.map fun f => (ofText f.1).value)
  conditions := .ok (fields.map fun f => (ofText f.1).condition)
  arms := .ok (fields.map fun f => (ofText f.1).arm)

mutual

def ofDoc : Doc → Reading
  | .list items => ofList items (ofItems items)
  | .record fields => ofRecord fields (ofFields fields)
  | .text s => ofText s
  | d => ofAtom d

def ofItems : List Doc → List Reading
  | [] => []
  | d :: rest => ofDoc d :: ofItems rest

def ofFields : List (Text × Doc) → Fields
  | [] => []
  | (key, d) :: rest => (key, ofDoc d) :: ofFields rest

end

theorem ofItems_eq_map (items : List Doc) : ofItems items = items.map ofDoc := by
  induction items with
  | nil => rfl
  | cons d rest ih => simp [ofItems, ih]

theorem find?_ofFields (fields : List (Text × Doc)) (key : Text) :
    find? (ofFields fields) key = (Doc.find? fields key).map ofDoc := by
  induction fields with
  | nil => rfl
  | cons f rest ih =>
    obtain ⟨k, d⟩ := f
    simp only [find?, Doc.find?] at ih
    simp only [ofFields, find?, Doc.find?, List.lookup_cons]
    cases key == k
    · exact ih
    · rfl

end Reading

def Value.ofDoc (d : Doc) : Value :=
  (Reading.ofDoc d).value

def Condition.ofDoc (d : Doc) : Condition :=
  (Reading.ofDoc d).condition

def Value.ofPart : Except Fault Doc → Value
  | .ok d => .ofDoc d
  | .error fault => .faulty fault

def Condition.ofPart : Except Fault Doc → Condition
  | .ok d => .ofDoc d
  | .error fault => .faulty fault

end QueryBench.Plan
