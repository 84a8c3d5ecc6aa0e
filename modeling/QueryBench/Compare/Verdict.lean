import QueryBench.Doc.Access

/-!
# Comparing the rows of two answers

Three ways to hold a predicted answer against the expected one. `strict` compares the sets of
rows. `soft` maps every expected column to a predicted one by the first row and then compares row
by row. `superSoft` looks for every expected row, as a set of cells, inside a predicted row of its
own.

Main definitions: `Compare.strict`, `Compare.soft`, `Compare.superSoft`.
-/
set_option autoImplicit false

namespace QueryBench.Compare

/-- Whether a comparison succeeded, and why. -/
structure Verdict where
  holds : Bool
  reason : Text
  deriving Repr, DecidableEq

/-- The cells of a row, which must all be able to be keys. -/
def keyCells (row : Doc) : Except Fault (List Doc) := do
  let cells ← row.elements
  cells.forM Doc.checkKey
  return cells

/-! ## Sets of rows -/

def keyRows (rows : Doc) : Except Fault (List (List Doc)) := do
  let items ← rows.elements
  items.mapM keyCells

def rowIn (row : List Doc) (rows : List (List Doc)) : Bool :=
  rows.any (Doc.sameItems row ·)

/-- Do both answers have the same rows, however often and in whatever order? -/
def strict (gold predicted : Doc) : Except Fault Bool := do
  let expected ← keyRows gold
  let got ← keyRows predicted
  return expected.all (rowIn · got) && got.all (rowIn · expected)

/-! ## Columns mapped in order -/

/-- The first number whose cell equals the given one, and the numbered cells without it. -/
def claimCell (cell : Doc) : List (Nat × Doc) → Option (Nat × List (Nat × Doc))
  | [] => none
  | (i, c) :: rest =>
    if cell.same c then some (i, rest)
    else (claimCell cell rest).map fun (j, left) => (j, (i, c) :: left)

/-- For every cell of the expected first row the number of an equal cell of the predicted one, or
the number of the first cell that has none, with the cell. -/
def mapColumns (column : Nat) (free : List (Nat × Doc)) :
    List Doc → Except (Nat × Doc) (List Nat)
  | [] => .ok []
  | cell :: rest => match claimCell cell free with
    | none => .error (column, cell)
    | some (i, free) => (mapColumns (column + 1) free rest).map (i :: ·)

def numbered (items : List Doc) : List (Nat × Doc) :=
  items.zipIdx.map fun (d, i) => (i, d)

/-- The first difference of a row from its partner under a map of columns. -/
def rowMismatch (map : List Nat) (row column : Nat) (partner : Doc) :
    List Doc → Except Fault (Option Text)
  | [] => .ok none
  | cell :: rest => do
    match map[column]? with
    | none => throw (.missingKey (.int column))
    | some i =>
      let got ← partner.nth i
      if cell.same got then rowMismatch map row (column + 1) partner rest
      else
        return some ("Value Mismatch at Row " ++ toString row ++ ", GT Col " ++ toString column ++
          ": Expected '" ++ cell.display ++ "', Got '" ++ got.display ++ "'")

/-- The first difference of the rows from the predicted ones at the same positions. -/
def rowsMismatch (map : List Nat) (predicted : Doc) (row : Nat) :
    List Doc → Except Fault (Option Text)
  | [] => .ok none
  | expected :: rest => do
    let partner ← predicted.nth row
    let cells ← expected.elements
    match ← rowMismatch map row 0 partner cells with
    | some reason => return some reason
    | none => rowsMismatch map predicted (row + 1) rest

def tooFewRows (expected got : Nat) : Verdict :=
  ⟨false, "Row Count Mismatch: Expected " ++ toString expected ++ ", Got " ++ toString got⟩

/-- Is there a map of columns under which the rows agree in order? The map is fixed by the first
row, every cell taking the first equal one that is free. -/
def soft (gold predicted : Doc) : Except Fault Verdict := do
  let got ← predicted.size
  let expected ← gold.size
  if got < expected then return tooFewRows expected got
  if expected = 0 then return ⟨false, "Empty Result Not Match"⟩
  let firstGot ← predicted.nth 0
  let widthGot ← firstGot.size
  let firstExpected ← gold.nth 0
  let widthExpected ← firstExpected.size
  if widthGot < widthExpected then
    return ⟨false, "Column Count Mismatch: Expected " ++ toString widthExpected ++ "+, Got " ++
      toString widthGot⟩
  let cells ← firstExpected.elements
  let free ← firstGot.elements
  match mapColumns 0 (numbered free) cells with
  | .error (column, cell) =>
    return ⟨false, "Mapping Failed: GT Column " ++ toString column ++ " (" ++ cell.display ++
      ") not found in Prediction Row 0."⟩
  | .ok map =>
    let rows ← gold.elements
    match ← rowsMismatch map predicted 0 rows with
    | some reason => return ⟨false, reason⟩
    | none => return ⟨true, "Soft Match Successful (Mapped & Ordered)"⟩

/-! ## Rows as sets of cells -/

def cellsWithin (cells others : List Doc) : Bool :=
  cells.all fun c => others.any (c.same ·)

/-- The rows without the first one that holds all the given cells, if there is one. -/
def claimRow (cells : List Doc) : List Doc → Except Fault (Option (List Doc))
  | [] => .ok none
  | row :: rest => do
    let others ← keyCells row
    if cellsWithin cells others then return some rest
    else
      let left ← claimRow cells rest
      return left.map (row :: ·)

/-- The first row that finds no free row holding its cells. -/
def unclaimedRow (free : List Doc) : List Doc → Except Fault (Option Doc)
  | [] => .ok none
  | row :: rest => do
    let cells ← keyCells row
    match ← claimRow cells free with
    | none => return some row
    | some left => unclaimedRow left rest

/-- Does every expected row find a predicted row of its own that holds all its cells? Each takes
the first one that is free. -/
def superSoft (gold predicted : Doc) : Except Fault Verdict := do
  let got ← predicted.size
  let expected ← gold.size
  if got < expected then return tooFewRows expected got
  if gold.isVoid then return ⟨true, "Empty Result Match"⟩
  let rows ← gold.elements
  let free ← predicted.elements
  match ← unclaimedRow free rows with
  | some row =>
    return ⟨false, "Row " ++ row.display ++
      " (as set) not found in prediction rows (subset check)."⟩
  | none => return ⟨true, "Super Soft Match Successful (Rows as Sets & Subset Check)"⟩

end QueryBench.Compare
