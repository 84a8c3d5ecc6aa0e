import QueryBench.Database.Basic
import QueryBench.Plan.Basic
import QueryBench.Session
import QueryBench.Vector.Store

/-!
# The world outside

Main definition: `World`, everything a run finds outside.
-/
set_option autoImplicit false

namespace QueryBench

/-- What a run finds outside: the services it asks, the variables of its environment by name, the
order in which sets are gone through, the vector store, the database, the schemas it knows, the
folder in which it takes place, and the name by which the program was called. -/
structure World where
  services : Services
  environment : Text → Option Text
  order : SetOrder
  store : Vector.Store
  database : Database
  schemas : Option Doc
  folder : Text
  program : Text
  deriving Inhabited

end QueryBench
