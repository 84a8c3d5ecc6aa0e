import QueryBench.Doc.Format
import QueryBench.Vector.Search

/-!
# A table of sample searches

Main definition: `Demo.searchTable`.
-/
set_option autoImplicit false

namespace QueryBench.Demo

def sampleSearches : List (Text × Text × Text) :=
  [("district", "A2", "Prague"), ("district", "A3", "lower Moravia"),
    ("trans", "k_symbol", "pension"), ("trans", "k_symbol", "insurenje"),
    ("loan", "status", "NOT paid yet"), ("client", "gender", "female"),
    ("client", "gender", "male")]

def searchRow (term value score : Text) : Text :=
  Text.padRight 20 term ++ " | " ++ Text.padRight 20 value ++ " | " ++ score

def searchTable (store : Vector.Store) : Traced Unit := do
  say (searchRow "Query" "Found DB Value" "Score")
  say (Text.replicate 55 '-')
  sampleSearches.forM fun (table, column, term) => do
    let (value, score) ← Vector.best store (.text table) (.text column) (.text term) (.int 1)
    say (searchRow term value.display (Number.fixedText 2 score))

end QueryBench.Demo
