import QueryBench.Fault
import QueryBench.Number.Numeral
import QueryBench.Text.Search

/-!
# Reaching into documents

Every operation says what it needs of a document and fails with the fault of what it found instead.

Main definitions: `Doc.member`, `Doc.field`, `Doc.elements`, `Doc.size`, `Doc.index`, `Doc.toInt`,
`Doc.joined`.
-/
set_option autoImplicit false

namespace QueryBench.Doc

/-- The fields of a record, which has the operation `name`. -/
def fieldsFor (name : Text) : Doc → Except Fault (List (Text × Doc))
  | record fields => .ok fields
  | d => .error (.noAttribute d.kind name)

/-- The text of a text, which has the operation `name`. -/
def textFor (name : Text) : Doc → Except Fault Text
  | text s => .ok s
  | d => .error (.noAttribute d.kind name)

def pathFor (use : PathUse) : Doc → Except Fault Text
  | text path => .ok path
  | d => .error (.pathNeeded use d.kind)

/-- The value of an optional field of a record, or `default`. -/
def memberD (d : Doc) (key : Text) (default : Doc) : Except Fault Doc := do
  let fields ← d.fieldsFor "get"
  return (find? fields key).getD default

def member (d : Doc) (key : Text) : Except Fault Doc :=
  d.memberD key null

def field (d : Doc) (key : Text) : Except Fault Doc :=
  match d with
  | record fields => match find? fields key with
    | some v => .ok v
    | none => .error (.missingKey (text key))
  | text _ => .error (.textIndex .text)
  | list _ => .error (.listIndex .text)
  | _ => .error (.notSubscriptable d.kind)

/-- The items of a list, the characters of a text or the keys of a record, in order. -/
def elements : Doc → Except Fault (List Doc)
  | list items => .ok items
  | text s => .ok (s.map fun g => text [g])
  | record fields => .ok (fields.map fun f => text f.1)
  | d => .error (.notIterable d.kind)

def size : Doc → Except Fault Nat
  | list items => .ok items.length
  | text s => .ok s.length
  | record fields => .ok fields.length
  | d => .error (.noLength d.kind)

/-- Does a text occur in a text, among the items of a list, or as a key of a record? -/
def has (d : Doc) (needle : Text) : Except Fault Bool :=
  match d with
  | text s => .ok (Text.contains needle s)
  | list items => .ok (items.any (·.isText needle))
  | record fields => .ok (find? fields needle).isSome
  | _ => .error (.notSearchable d.kind)

/-- The position an index denotes among `n` places; negative ones count from the end. -/
def place? (n : Nat) (i : Int) : Option Nat :=
  let j := if i < 0 then i + n else i
  if 0 ≤ j ∧ j < n then some j.toNat else none

def checkKey : Doc → Except Fault Unit
  | list _ => .error (.unhashable .list)
  | record _ => .error (.unhashable .record)
  | _ => .ok ()

def index (d i : Doc) : Except Fault Doc :=
  match d with
  | list items => match i.asInt? with
    | some n => match (place? items.length n).bind (items[·]?) with
      | some v => .ok v
      | none => .error .outOfRange
    | none => .error (.listIndex i.kind)
  | text s => match i.asInt? with
    | some n => match (place? s.length n).bind (s[·]?) with
      | some g => .ok (text [g])
      | none => .error .textOutOfRange
    | none => .error (.textIndex i.kind)
  | record fields => do
    i.checkKey
    match i with
    | text key => match find? fields key with
      | some v => .ok v
      | none => .error (.missingKey i)
    | _ => .error (.missingKey i)
  | _ => .error (.notSubscriptable d.kind)

def nth (d : Doc) (n : Nat) : Except Fault Doc :=
  d.index (int n)

/-- The whole number a document stands for; fractions are cut off. -/
def toInt : Doc → Except Fault Int
  | bool b => .ok (if b then 1 else 0)
  | int n => .ok n
  | real x => match Number.Binary.ofFloat? x with
    | some b => .ok b.truncate
    | none => .error (if x.isNaN then .notANumber else .infinite)
  | text s => match Number.readInt s with
    | .ok n => .ok n
    | .error .malformed => .error (.notNumeral s)
    | .error (.tooLong n) => .error (.numeralTooLong n)
  | d => .error (.notIntegral d.kind)

/-- The texts of a list of documents from position `i` on, which must all be texts. -/
def textsFrom (i : Nat) : List Doc → Except Fault (List Text)
  | [] => .ok []
  | text s :: rest => do
    let texts ← textsFrom (i + 1) rest
    return s :: texts
  | d :: _ => .error (.joinItem i d.kind)

def joined (separator : Text) (items : List Doc) : Except Fault Text := do
  let texts ← textsFrom 0 items
  return Text.join separator texts

/-- Does the order of two texts or two numbers satisfy `holds`? What is not a number satisfies
nothing. -/
def ordered (operator : Text) (holds : Ordering → Bool) (a b : Doc) : Except Fault Bool :=
  match a, b with
  | text s, text t => .ok (holds (compare s t))
  | _, _ => match compareNumbers? a b with
    | some (some o) => .ok (holds o)
    | some none => .ok false
    | none => .error (.unordered operator a.kind b.kind)

def greater (a b : Doc) : Except Fault Bool :=
  ordered ">" (· == .gt) a b

end QueryBench.Doc
