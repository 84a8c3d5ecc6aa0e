import QueryBench.Doc.Access

/-!
# Vector stores

A store holds named collections. A query for a text gives the closest entries of a collection,
nearest first, each with the information stored beside it and its distance.

Main definitions: `Vector.Store`, `Vector.Store.query`.
-/
set_option autoImplicit false

namespace QueryBench.Vector

/-- An entry that was found: what is stored beside it, and how far away it is. -/
structure Hit where
  info : Doc
  distance : Doc
  deriving Inhabited

/-- How a collection answers queries. -/
inductive Collection where
  | failing (message : Text)
  /-- The entries found for each known text, under `*` those for any other. -/
  | answering (known : List (Text × List Hit))
  deriving Inhabited

/-- Collections in order of creation. -/
structure Store where
  collections : List (Text × Collection)
  deriving Inhabited

def hitsFor (known : List (Text × List Hit)) (query : Doc) : List Hit :=
  let other := (known.lookup ("*" : Text)).getD []
  match query with
  | .text s => (known.lookup s).getD other
  | _ => other

/-- The first `count` items; a negative count leaves that many off the end and null takes all. -/
def firstItems {α : Type} (items : List α) (count : Doc) : Except Fault (List α) :=
  match count with
  | .null => .ok items
  | _ => match count.asInt? with
    | some n => .ok (if 0 ≤ n then items.take n.toNat else items.take (items.length - n.natAbs))
    | none => .error .sliceBound

def Store.query (store : Store) (name : Text) (query count : Doc) : Except Fault (List Hit) :=
  match store.collections.lookup name with
  | none => .error (.noCollection name)
  | some (.failing message) => .error (.service message)
  | some (.answering known) => firstItems (hitsFor known query) count

end QueryBench.Vector
