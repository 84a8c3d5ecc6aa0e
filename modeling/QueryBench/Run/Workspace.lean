import QueryBench.CommandLine
import QueryBench.Files
import QueryBench.World

/-!
# Where a run takes place

Main definitions: `Workspace`, what a run changes, and `Working`, a computation in a workspace that
may stop at a fault.
-/
set_option autoImplicit false

namespace QueryBench

/-- The session of a run and its files. -/
structure Workspace where
  session : Session
  files : Files
  deriving Inhabited

/-- A computation in a workspace that may stop at a fault. -/
abbrev Working := ExceptT Fault (StateM Workspace)

def Traced.work {α : Type} (act : Traced α) : Working α :=
  ExceptT.mk fun w =>
    let (outcome, console) := act.run.run w.session.console
    (outcome, { w with session := { w.session with console } })

def inSession {α : Type} (act : StateM Session α) : Working α :=
  ExceptT.mk fun w =>
    let (a, session) := act.run w.session
    (.ok a, { w with session })

def changeFiles (change : Files → Except Fault Files) : Working Unit := do
  let w ← get
  let files ← change w.files
  set { w with files }

def withFiles {α : Type} (change : Files → Except Fault (α × Files)) : Working α := do
  let w ← get
  let (a, files) ← change w.files
  set { w with files }
  return a

def writePieces (path : Text) (pieces : List (Except Fault Text)) : Working Unit :=
  ExceptT.mk fun w =>
    let (files, outcome) := w.files.writePieces path pieces
    (outcome, { w with files })

def currentFiles : Working Files := do
  return (← get).files

def locateDatabase (world : World) (name : CommandLine.Value) : Working Text := do
  let name ← CommandLine.pathOf .join name
  let files ← currentFiles
  (Database.locate world.folder files name).work

end QueryBench
