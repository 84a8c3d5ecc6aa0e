import QueryBench.Baseline.Keyed
import QueryBench.Baseline.Positional
import QueryBench.Run.Reprocess
import QueryBench.Run.TestSet

/-!
# Commands

A command tells from its options which files it touches, so that they can be fetched before it runs.

Main definitions: `Touched`, `Command`, `Command.named?`.
-/
set_option autoImplicit false

namespace QueryBench

/-- The paths a command may read or write, and that of the database it looks for. -/
structure Touched where
  paths : List Text := []
  database : Option Text := none

/-- A command: its options, what it touches with them, and what it does. -/
structure Command where
  parameters : List CommandLine.Parameter
  touched : List (Text × CommandLine.Value) → Touched
  run : World → List Text → Working Unit

namespace Command

def testSet : Command where
  parameters := TestSet.parameters
  touched given := { paths := (TestSet.Settings.ofOptions given).paths }
  run := TestSet.run

def reprocess : Command where
  parameters := Reprocess.parameters
  touched given :=
    let settings := Reprocess.Settings.ofOptions given
    ⟨settings.paths, settings.database⟩
  run := Reprocess.run

def baseline (method : Text) (compare : World → Baseline.Settings → Working Unit) : Command where
  parameters := Baseline.parameters
  touched given :=
    let settings := Baseline.Settings.ofOptions method given
    ⟨settings.paths, settings.database⟩
  run world arguments := do
    let given ← (CommandLine.ask world.program Baseline.parameters arguments).work
    compare world (Baseline.Settings.ofOptions method given)

/-- What a command touches with its arguments; one that is not understood touches nothing. -/
def touchedBy (command : Command) (arguments : List Text) : Touched :=
  match CommandLine.parse command.parameters arguments with
  | .ok given => command.touched given
  | .error _ => {}

def named? (name : Text) : Option Command :=
  if name = "test-set" then some testSet
  else if name = "reprocess" then some reprocess
  else if name = "dail-sql" then some (baseline "dail_sql" Baseline.Keyed.run)
  else if name = "din-sql" then some (baseline "din_sql" Baseline.Positional.run)
  else none

end Command

end QueryBench
