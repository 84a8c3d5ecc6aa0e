import QueryBench.Fault

/-!
# Computations that write

Main definitions: `Traced`, a computation that writes text as it goes and may stop at a fault, and
`say`, which writes a line. What was written before a fault stays written.
-/
set_option autoImplicit false

namespace QueryBench

/-- A computation that writes text and may stop at a fault. -/
abbrev Traced := ExceptT Fault (StateM Text)

def say (line : Text) : Traced Unit :=
  modify fun written => written ++ line ++ "\n"

def Traced.outcome {α : Type} (act : Traced α) : Except Fault α × Text :=
  act.run.run ""

end QueryBench
