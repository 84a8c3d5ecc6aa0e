import QueryBench.Number.Fused

/-!
# Correlation

The correlation of two lists of numbers is the sum of the products of their deviations from the
means, brought to scale by the spread of each list. It is computed in floating point. A sum of
products is taken block by block, and inside a block every product is added in one rounding.

Main definition: `correlation`.
-/
set_option autoImplicit false

namespace QueryBench.Statistics

def blockLimit : Nat := 384

/-- How many of `n` products are in the next block: a full block as long as two of them are there,
then what is left in one block or two. -/
def blockLength (n : Nat) : Nat :=
  if 2 * blockLimit ≤ n then blockLimit
  else if blockLimit < n then (n + 1) / 2
  else n

theorem blockLength_pos {n : Nat} (h : 0 < n) : 0 < blockLength n := by
  unfold blockLength blockLimit
  split
  · decide
  · split <;> omega

def blocks (pairs : List (Float × Float)) : List (List (Float × Float)) :=
  if pairs = [] then []
  else
    let n := blockLength pairs.length
    pairs.take n :: blocks (pairs.drop n)
termination_by pairs.length
decreasing_by
  have h : 0 < pairs.length := List.length_pos_iff.2 (by assumption)
  have := blockLength_pos h
  rw [List.length_drop]
  omega

def blockSum (pairs : List (Float × Float)) : Float :=
  pairs.foldl (fun sum p => Number.fusedAdd p.1 p.2 sum) 0.0

def productSum (xs ys : List Float) : Float :=
  (blocks (xs.zip ys)).foldl (fun sum block => sum + blockSum block) 0.0

def deviations (xs : List Nat) : List Float :=
  let mean := Number.ofInt (xs.foldl (· + ·) 0 : Nat) / Number.ofInt xs.length
  xs.map fun (x : Nat) => Number.ofInt x - mean

/-- The correlation of two lists of equal length; if one list is constant it is not a number. -/
def correlation (xs ys : List Nat) : Float :=
  let dx := deviations xs
  let dy := deviations ys
  let share := 1.0 / Number.ofInt ((xs.length : Int) - 1)
  let r := productSum dx dy * share / (productSum dx dx * share).sqrt /
    (productSum dy dy * share).sqrt
  if r < -1.0 then -1.0 else if 1.0 < r then 1.0 else r

end QueryBench.Statistics
