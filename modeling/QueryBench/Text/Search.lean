import QueryBench.Text.Basic

/-!
# Finding one text inside another

Main definitions: `cut?`, `contains`, `splitOn`, `replaceAll`, `countOf`.
-/
set_option autoImplicit false

namespace QueryBench.Text

/-- The text before and after the first occurrence of `needle`. -/
def cut? (needle : Text) : Text → Option (Text × Text)
  | [] => if needle.isEmpty then some ([], []) else none
  | g :: rest =>
    if needle.isPrefixOf (g :: rest) then some ([], (g :: rest).drop needle.length)
    else (cut? needle rest).map fun p => (g :: p.1, p.2)

def contains (needle s : Text) : Bool :=
  (cut? needle s).isSome

def startsWith (head s : Text) : Bool :=
  head.isPrefixOf s

/-- The part of `s` before the first occurrence of `needle`, or all of `s` when there is none. -/
def before (needle s : Text) : Text :=
  match cut? needle s with
  | some (head, _) => head
  | none => s

/-- Every character `c` of `s` replaced by the text `new`. -/
def replaceChar (c : Char) (new s : Text) : Text :=
  s.flatMap fun g => if g = .char c then new else [g]

/-- The pieces of a text between occurrences of `needle`, found from the left without overlap.
`skip` counts the glyphs of an occurrence still to be passed over and `piece` holds the current
piece, last first. -/
def splitFrom (needle : Text) (skip : Nat) (piece : Text) : Text → List Text
  | [] => [piece.reverse]
  | g :: rest =>
    match skip with
    | k + 1 => splitFrom needle k piece rest
    | 0 =>
      if needle.isPrefixOf (g :: rest) then
        piece.reverse :: splitFrom needle (needle.length - 1) [] rest
      else splitFrom needle 0 (g :: piece) rest

/-- The pieces of `s` between the occurrences of a `needle` that is not empty. -/
def splitOn (needle s : Text) : List Text :=
  splitFrom needle 0 [] s

/-- Every occurrence of a `needle` that is not empty replaced by `new`. -/
def replaceAll (needle new s : Text) : Text :=
  join new (splitOn needle s)

/-- The number of occurrences of a `needle` that is not empty, without overlap. -/
def countOf (needle s : Text) : Nat :=
  (splitOn needle s).length - 1

def padRight (width : Nat) (s : Text) : Text :=
  s ++ replicate (width - s.length) ' '

end QueryBench.Text
