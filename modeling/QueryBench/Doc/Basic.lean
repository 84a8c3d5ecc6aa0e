import QueryBench.Number.Binary
import QueryBench.Number.Shortest
import QueryBench.Text.Quoted

/-!
# Documents

Plans, model replies, report lines and settings arrive as documents whose shape is not known
beforehand. A document keeps the order of its fields and tells whole numbers from fractions.

Main definitions: `Doc`, `Doc.kind`, `Doc.isVoid`, `Doc.display`, `Doc.same`.
-/
set_option autoImplicit false

namespace QueryBench

inductive Doc where
  | null
  | bool (value : Bool)
  | int (value : Int)
  | real (value : Float)
  | text (value : Text)
  | list (items : List Doc)
  | record (fields : List (Text × Doc))
  deriving Inhabited, Repr

/-- The kinds of documents, and of the byte strings and tables that are handled beside them. -/
inductive Kind where
  | null
  | bool
  | int
  | real
  | text
  | list
  | record
  | bytes
  | table
  | column
  deriving DecidableEq, Repr

def Kind.label : Kind → Text
  | .null => "NoneType"
  | .bool => "bool"
  | .int => "int"
  | .real => "float"
  | .text => "str"
  | .list => "list"
  | .record => "dict"
  | .bytes => "bytes"
  | .table => "DataFrame"
  | .column => "Series"

namespace Doc

def kind : Doc → Kind
  | null => .null
  | bool _ => .bool
  | int _ => .int
  | real _ => .real
  | text _ => .text
  | list _ => .list
  | record _ => .record

def isVoid : Doc → Bool
  | null => true
  | bool b => !b
  | int n => n == 0
  | real x => x == 0
  | text s => s.isEmpty
  | list items => items.isEmpty
  | record fields => fields.isEmpty

/-- The value of a field; a key occurs at most once. -/
def find? (fields : List (Text × Doc)) (key : Text) : Option Doc :=
  fields.lookup key

/-- The fields with a key set: an old key keeps its place, a new one comes last. -/
def put (fields : List (Text × Doc)) (key : Text) (value : Doc) : List (Text × Doc) :=
  match fields with
  | [] => [(key, value)]
  | (k, v) :: rest => if k = key then (k, value) :: rest else (k, v) :: put rest key value

mutual

/-- How deep lists and records are nested; an empty one counts too. -/
def depth : Doc → Nat
  | list items => itemsDepth items + 1
  | record fields => fieldsDepth fields + 1
  | _ => 0

def itemsDepth : List Doc → Nat
  | [] => 0
  | d :: rest => max (depth d) (itemsDepth rest)

def fieldsDepth : List (Text × Doc) → Nat
  | [] => 0
  | (_, d) :: rest => max (depth d) (fieldsDepth rest)

end

/-! ## Text of a document -/

mutual

/-- The text of a document inside another one: texts are quoted. -/
def literal : Doc → Text
  | null => "None"
  | bool b => if b then "True" else "False"
  | int n => toString n
  | real x => Number.floatText x
  | text s => Text.quoted s
  | list items => "[" ++ Text.join ", " (literals items) ++ "]"
  | record fields => "\x7b" ++ Text.join ", " (fieldLiterals fields) ++ "\x7d"

def literals : List Doc → List Text
  | [] => []
  | d :: rest => literal d :: literals rest

def fieldLiterals : List (Text × Doc) → List Text
  | [] => []
  | (k, v) :: rest => (Text.quoted k ++ ": " ++ literal v) :: fieldLiterals rest

end

/-- The text of a document: a text is shown as it is. -/
def display : Doc → Text
  | text s => s
  | d => literal d

/-! ## Equality -/

/-- The document as a whole number, when it is a truth value or a whole number. -/
def asInt? : Doc → Option Int
  | bool b => some (if b then 1 else 0)
  | int n => some n
  | _ => none

/-- The order of two numbers; none when one is not a number. -/
def compareNumbers? : Doc → Doc → Option (Option Ordering)
  | a, b =>
    match a.asInt?, b.asInt?, a, b with
    | some m, some n, _, _ => some (some (compare m n))
    | some m, none, _, real y => some (compareMixed m y)
    | none, some n, real x, _ => some ((compareMixed n x).map Ordering.swap)
    | none, none, real x, real y =>
      some (if x < y then some .lt else if x == y then some .eq
        else if y < x then some .gt else none)
    | _, _, _, _ => none
where
  /-- A whole number beside a floating point number, which may be infinite or not a number. -/
  compareMixed (m : Int) (y : Float) : Option Ordering :=
    match Number.Binary.ofFloat? y with
    | some b => some (Number.Binary.compareInt m b)
    | none => if y.isNaN then none else if y < 0 then some .gt else some .lt

/-- Do two documents that are not lists or records stand for the same value? A truth value equals
the number 0 or 1, and a whole number equals the fraction of the same value. -/
def sameAtom (a b : Doc) : Bool :=
  match a, b with
  | null, null => true
  | text s, text t => s == t
  | _, _ => compareNumbers? a b == some (some .eq)

mutual

/-- Do two documents stand for the same value? The order of fields does not matter. -/
def same : Doc → Doc → Bool
  | list xs, b => match b with
    | list ys => sameItems xs ys
    | _ => false
  | record fs, b => match b with
    -- As many fields on both sides, so partners for those of one are enough.
    | record gs => fs.length == gs.length && sameFields fs gs
    | _ => false
  | a, b => sameAtom a b

def sameItems : List Doc → List Doc → Bool
  | [], ys => ys.isEmpty
  | x :: xs, ys => match ys with
    | [] => false
    | y :: ys => same x y && sameItems xs ys

/-- Does every field have an equal partner in the other record? -/
def sameFields : List (Text × Doc) → List (Text × Doc) → Bool
  | [], _ => true
  | (k, v) :: rest, gs => match find? gs k with
    | some w => same v w && sameFields rest gs
    | none => false

end

def isText (d : Doc) (s : Text) : Bool :=
  match d with
  | text t => t == s
  | _ => false

def isOneOf (d : Doc) (texts : List Text) : Bool :=
  texts.any d.isText

end Doc

end QueryBench
