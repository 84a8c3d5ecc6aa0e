import QueryBench.Plan.Task

/-!
# Plans

A plan is a list of tasks with ids. A task that no other one refers to is its root; the ids of such
tasks form a set, which is gone through in no particular order.

Main definitions: `Plan`, `Plan.ofDoc`, `Plan.find?`, `Plan.references`, `SetOrder`, `Plan.root`.
-/
set_option autoImplicit false

namespace QueryBench

/-- An order in which sets of ids are gone through: `arrange ids chosen` are the ids `chosen` out of
`ids`, each once. Nothing else is known of it. -/
structure SetOrder where
  arrange : List Doc → List Doc → List Doc
  perm : ∀ ids chosen, (arrange ids chosen).Perm chosen

/-- The order in which the ids were given. -/
def SetOrder.given : SetOrder :=
  ⟨fun _ chosen => chosen, fun _ _ => .rfl⟩

instance : Inhabited SetOrder := ⟨.given⟩

/-- The tasks of a plan by id, in order of first appearance. -/
structure Plan where
  tasks : List (Doc × List (Text × Doc))

namespace Plan

/-- The tasks with one added: an id that is there keeps its place and gets the new task. -/
def insert (tasks : List (Doc × List (Text × Doc))) (id : Doc) (task : List (Text × Doc)) :
    List (Doc × List (Text × Doc)) :=
  match tasks with
  | [] => [(id, task)]
  | (k, t) :: rest => if k.same id then (k, task) :: rest else (k, t) :: insert rest id task

def collect (tasks : List (Doc × List (Text × Doc))) :
    List Doc → Except Fault (List (Doc × List (Text × Doc)))
  | [] => .ok tasks
  | d :: rest => do
    let id ← d.field "task_id"
    id.checkKey
    let fields ← d.fieldsFor "get"
    collect (insert tasks id fields) rest

def ofDoc (d : Doc) : Except Fault Plan := do
  let items ← (← d.memberD "tasks" (.list [])).elements
  let tasks ← collect [] items
  return ⟨tasks⟩

/-- The task with the given number as its id. -/
def find? (plan : Plan) (id : Int) : Option Task :=
  (plan.tasks.find? fun t => t.1.same (.int id)).map fun t => Task.ofFields t.2

/-! ## References -/

/-- The task a record refers to directly: none when it names none or what it names is no number. -/
def ownReference (fields : List (Text × Doc)) : Except Fault (List Int) :=
  match Doc.find? fields "target_task_id" with
  | none | some .null => .ok []
  | some d => match d.toInt with
    | .ok n => .ok [n]
    -- An infinite number is the only one whose conversion is not forgiven.
    | .error .infinite => .error .infinite
    | .error _ => .ok []

mutual

def references : Doc → Except Fault (List Int)
  | .list items => itemReferences items
  | .record fields => do
    let own ← ownReference fields
    let inner ← fieldReferences fields
    return own ++ inner
  | _ => .ok []

def itemReferences : List Doc → Except Fault (List Int)
  | [] => .ok []
  | d :: rest => do
    let here ← references d
    let there ← itemReferences rest
    return here ++ there

def fieldReferences : List (Text × Doc) → Except Fault (List Int)
  | [] => .ok []
  | (_, d) :: rest => do
    let here ← references d
    let there ← fieldReferences rest
    return here ++ there

end

/-- The tasks a document refers to, in increasing order. -/
def referenceSet (d : Doc) : Except Fault (List Int) := do
  let all ← references d
  return (all.mergeSort (· ≤ ·)).eraseReps

def allReferences (plan : Plan) : Except Fault (List Int) := do
  let all ← plan.tasks.mapM fun t => references (.record t.2)
  return all.flatten

/-! ## The root -/

/-- The greatest of `best` and the other documents; the earliest of equal ones. -/
def greatest (best : Doc) : List Doc → Except Fault Doc
  | [] => .ok best
  | d :: rest => do
    if ← d.greater best then greatest d rest else greatest best rest

/-- The greatest id that no task refers to, or else the last id. Where ids cannot be compared, the
order in which they are gone through shows in the fault. -/
def root (plan : Plan) (order : SetOrder) : Except Fault Doc := do
  let referenced ← plan.allReferences
  let ids := plan.tasks.map Prod.fst
  match order.arrange ids (ids.filter fun id => !referenced.any fun n => id.same (.int n)) with
  | [] => match ids.getLast? with
    | some id => return id
    | none => throw .outOfRange
  | first :: rest => greatest first rest

end Plan

end QueryBench
