import QueryBench.Plan.Basic
import QueryBench.Proofs.Doc.Shape
import QueryBench.Proofs.Outcome

/-!
# The leaves of a task

What a task says ends in documents whose text is shown, in calls for other tasks, and in the faults of
malformed parts. All of them come from the document that the task was read from. So what holds of a
document and of everything in it holds of the leaves.

Main definitions: `Plan.Leaf`, `Plan.Task.leaves`, and `Plan.Inherits`, which says what leaves inherit
from documents. Main statements: `Plan.Inherits.leaves_ofDoc` for readings and
`Plan.Inherits.leaves_ofFields` for tasks.
-/
set_option autoImplicit false

namespace QueryBench.Plan

/-- What stands at the ends of a task. -/
inductive Leaf where
  | shown (d : Doc)
  | call (task : Doc)
  | fault (cause : Fault)

/-! ## Values and conditions -/

mutual

/-- The leaves of a value. -/
def Value.leaves : Value → List Leaf
  | .null => []
  | .literal content => [.shown content]
  | .column name => [.shown name]
  | .call name arguments => .shown (.text name) :: Value.leavesOfAll arguments
  | .choice arms otherwise => Arm.leavesOfAll arms ++ Value.leavesOfOption otherwise
  | .condition c => c.leaves
  | .semantic _ _ term => [.shown term]
  | .subquery task => [.call task]
  | .faulty fault => [.fault fault]

def Value.leavesOfAll : List Value → List Leaf
  | [] => []
  | v :: rest => v.leaves ++ Value.leavesOfAll rest

def Value.leavesOfOption : Option Value → List Leaf
  | none => []
  | some v => v.leaves

def Arm.leavesOfAll : List Arm → List Leaf
  | [] => []
  | .mk test result :: rest => test.leaves ++ (result.leaves ++ Arm.leavesOfAll rest)

/-- The leaves of a condition. -/
def Condition.leaves : Condition → List Leaf
  | .group connective parts => .shown connective :: Condition.leavesOfAll parts
  | .compare operator left right => .shown operator :: (left.leaves ++ right.leaves)
  | .faulty fault => [.fault fault]

def Condition.leavesOfAll : List Condition → List Leaf
  | [] => []
  | c :: rest => c.leaves ++ Condition.leavesOfAll rest

end

/-- The leaves of a case of a choice. -/
def Arm.leaves (arm : Arm) : List Leaf :=
  Arm.leavesOfAll [arm]

theorem Value.leavesOfAll_eq (vs : List Value) : Value.leavesOfAll vs = vs.flatMap Value.leaves := by
  induction vs with
  | nil => rfl
  | cons v rest ih => rw [Value.leavesOfAll, ih, List.flatMap_cons]

theorem Condition.leavesOfAll_eq (cs : List Condition) :
    Condition.leavesOfAll cs = cs.flatMap Condition.leaves := by
  induction cs with
  | nil => rfl
  | cons c rest ih => rw [Condition.leavesOfAll, ih, List.flatMap_cons]

theorem Arm.leaves_mk (test result : Value) :
    (Arm.mk test result).leaves = test.leaves ++ result.leaves := by
  simp [Arm.leaves, Arm.leavesOfAll]

theorem Arm.leavesOfAll_eq (arms : List Arm) : Arm.leavesOfAll arms = arms.flatMap Arm.leaves := by
  induction arms with
  | nil => rfl
  | cons arm rest ih =>
    obtain ⟨test, result⟩ := arm
    rw [Arm.leavesOfAll, ih, List.flatMap_cons, Arm.leaves_mk, List.append_assoc]

/-! ## Clauses and tasks -/

/-- The leaves of a part that may be malformed. -/
def leavesOfPart {α : Type} (leaves : α → List Leaf) : Part α → List Leaf
  | .ok a => leaves a
  | .error cause => [.fault cause]

/-- The leaves of a part that may be missing. -/
def leavesOfOption {α : Type} (leaves : α → List Leaf) : Option α → List Leaf
  | none => []
  | some a => leaves a

/-- The leaves of a column that is selected, with its label. -/
def Output.leaves (item : Output) : List Leaf :=
  item.value.leaves ++ leavesOfOption (fun name => [.shown (.text name)]) item.label

/-- The leaves of what a task selects. -/
def Target.leaves : Target → List Leaf
  | .all => []
  | .outputs items => leavesOfPart (·.flatMap Output.leaves) items

def SortKey.leaves (key : SortKey) : List Leaf :=
  .shown (.text key.direction) :: key.value.leaves

/-- The leaves of a join. -/
def Join.leaves (j : Join) : List Leaf :=
  leavesOfPart ([.shown ·]) j.kind ++ leavesOfPart ([.shown ·]) j.table ++ j.on.leaves

/-- The leaves of a set operation, which calls for a task. -/
def SetOperation.leaves (s : SetOperation) : List Leaf :=
  .shown s.operator :: leavesOfPart ([.call ·]) s.task

/-- The leaves of a join or set operation; what is ignored has none. -/
def Link.leaves : Link → List Leaf
  | .join j => j.leaves
  | .combine s => s.leaves
  | .ignored => []

/-- The leaves of a task. -/
def Task.leaves (task : Task) : List Leaf :=
  leavesOfPart (·.flatMap Link.leaves) task.links ++
  leavesOfPart (fun _ => []) task.distinct ++
  task.target.leaves ++
  leavesOfOption (leavesOfPart ([.shown ·])) task.table ++
  leavesOfOption Condition.leaves task.filter ++
  leavesOfOption (leavesOfPart fun columns => [.shown (.text columns)]) task.grouping ++
  leavesOfOption Condition.leaves task.having ++
  leavesOfOption (leavesOfPart (·.flatMap SortKey.leaves)) task.order ++
  leavesOfOption ([.shown ·]) task.limit

/-! ## Parts that are sound -/

/-- Has the part the property, if it is well formed, and else no circle as its fault? -/
def Sound {α : Type} (A : α → Prop) : Part α → Prop
  | .ok a => A a
  | .error cause => cause ≠ .circular

namespace Sound
variable {α β : Type} {A : α → Prop} {B : β → Prop}

theorem bind {x : Part α} {f : α → Part β} (hx : Sound A x) (hf : ∀ a, A a → Sound B (f a)) :
    Sound B (x >>= f) := by
  cases x with
  | error cause => exact hx
  | ok a => exact hf a hx

theorem map {x : Part α} {f : α → β} (hx : Sound A x) (hf : ∀ a, A a → B (f a)) :
    Sound B (x.map f) := by
  cases x with
  | error cause => exact hx
  | ok a => exact hf a hx

theorem mapM {f : α → Part β} {xs : List α} (hf : ∀ a ∈ xs, Sound B (f a)) :
    Sound (fun bs : List β => ∀ b ∈ bs, B b) (xs.mapM f) := by
  induction xs with
  | nil => exact fun b hb => absurd hb List.not_mem_nil
  | cons a xs ih =>
    obtain ⟨ha, hxs⟩ := List.forall_mem_cons.1 hf
    rw [List.mapM_cons]
    exact ha.bind fun b hb => (ih hxs).bind fun bs hbs => List.forall_mem_cons.2 ⟨hb, hbs⟩

theorem mono {x : Part α} {A' : α → Prop} (hx : Sound A x) (h : ∀ a, A a → A' a) : Sound A' x := by
  cases x with
  | error cause => exact hx
  | ok a => exact h a hx

theorem self {x : Part α} (hx : Sound (fun _ => True) x) : Sound (fun a => x = .ok a) x := by
  cases x with
  | error cause => exact hx
  | ok a => rfl

end Sound

/-! ## Faults of documents -/

theorem sound_field {Q : Doc → Prop} {d : Doc} (key : Text)
    (hd : ∀ fields, d = .record fields → ∀ v, Doc.find? fields key = some v → Q v) :
    Sound Q (d.field key) := by
  cases d with
  | record fields =>
    rw [Doc.field]
    cases hfind : Doc.find? fields key with
    | none =>
      intro h
      cases h
    | some v => exact hd fields rfl v hfind
  | _ =>
    intro h
    cases h

theorem sound_has (d : Doc) (needle : Text) : Sound (fun _ => True) (d.has needle) := by
  cases d with
  | text s | list items | record fields => trivial
  | _ => exact nofun

theorem sound_textFor (name : Text) (d : Doc) : Sound (fun s => d = .text s) (d.textFor name) := by
  cases d with
  | text s => rfl
  | _ => exact nofun

theorem sound_quoteTable (d : Doc) : Sound (fun quoted => quoteTable d = .ok quoted) (quoteTable d) := by
  have hwords (s : Text) : Sound (fun _ => True) (quoteWords s) := by
    unfold quoteWords
    split
    · exact nofun
    · trivial
  refine Sound.self ?_
  unfold quoteTable
  split
  · trivial
  · exact (sound_textFor "strip" d).bind fun s _ => (hwords s).bind fun _ _ => trivial

theorem sound_joined (separator : Text) (items : List Doc) :
    Sound (fun _ => True) (Doc.joined separator items) := by
  have htexts (i : Nat) : Sound (fun _ => True) (Doc.textsFrom i items) := by
    fun_induction Doc.textsFrom i items with
    | case1 => trivial
    | case2 i s rest ih => exact ih.bind fun _ _ => trivial
    | case3 => exact nofun
  exact (htexts 0).bind fun _ _ => trivial

theorem sound_groupingOf (d : Doc) :
    Sound (fun columns => groupingOf d = .ok columns) (groupingOf d) := by
  refine Sound.self ?_
  unfold groupingOf
  split
  · exact sound_joined _ _
  · exact nofun

/-! ## What leaves inherit -/

/-- What holds of a document and its parts by `Q` gives what holds of leaves by `P`. -/
structure Inherits (Q : Doc → Prop) (P : Leaf → Prop) : Prop where
  item {items : List Doc} : Q (.list items) → ∀ d ∈ items, Q d
  field {fields : List (Text × Doc)} : Q (.record fields) → ∀ f ∈ fields, Q f.2
  null : Q .null
  empty : Q (.list [])
  noText : Q (.text "")
  ascending : Q (.text "ASC")
  shown {d : Doc} : Q d → P (.shown d)
  display {d : Doc} : Q d → P (.shown (.text d.display))
  upper {s : Text} : Q (.text s) → P (.shown (.text (Text.upper s)))
  quoted {d quoted : Doc} : Q d → quoteTable d = .ok quoted → P (.shown quoted)
  grouped {d : Doc} {columns : Text} : Q d → groupingOf d = .ok columns → P (.shown (.text columns))
  call {fields : List (Text × Doc)} :
    Q (.record fields) → P (.call ((Doc.find? fields "target_task_id").getD .null))
  fault {cause : Fault} : cause ≠ .circular → P (.fault cause)

/-- Do the leaves of a part all have a property? -/
abbrev AllLeaves (P : Leaf → Prop) (leaves : List Leaf) : Prop :=
  ∀ leaf ∈ leaves, P leaf

/-- The leaves of all readings of a document have the property. -/
structure Reading.Leaves (P : Leaf → Prop) (r : Reading) : Prop where
  value : AllLeaves P r.value.leaves
  condition : AllLeaves P r.condition.leaves
  arm : AllLeaves P r.arm.leaves
  values : AllLeaves P (leavesOfPart Value.leavesOfAll r.values)
  conditions : AllLeaves P (leavesOfPart Condition.leavesOfAll r.conditions)
  arms : AllLeaves P (leavesOfPart Arm.leavesOfAll r.arms)

theorem source_ofDoc (d : Doc) : (Reading.ofDoc d).source = d := by
  cases d <;> rfl

theorem sourceAt_ofFields (fields : List (Text × Doc)) (key : Text) :
    Reading.sourceAt (Reading.ofFields fields) key = (Doc.find? fields key).getD .null := by
  rw [Reading.sourceAt, Reading.find?_ofFields]
  cases Doc.find? fields key with
  | none => rfl
  | some d => exact source_ofDoc d

theorem allLeaves_nil {P : Leaf → Prop} : AllLeaves P [] :=
  fun _ hleaf => absurd hleaf List.not_mem_nil

theorem allLeaves_flatMap {α : Type} {P : Leaf → Prop} {leaves : α → List Leaf} {xs : List α}
    (h : ∀ a ∈ xs, AllLeaves P (leaves a)) : AllLeaves P (xs.flatMap leaves) := by
  intro leaf hleaf
  obtain ⟨a, ha, hleaf⟩ := List.mem_flatMap.1 hleaf
  exact h a ha leaf hleaf

theorem allLeaves_option {α : Type} {P : Leaf → Prop} {leaves : α → List Leaf} {o : Option α}
    (h : ∀ a, o = some a → AllLeaves P (leaves a)) : AllLeaves P (leavesOfOption leaves o) := by
  cases o with
  | none => exact allLeaves_nil
  | some a => exact h a rfl

theorem allLeaves_of_part {α : Type} {P : Leaf → Prop} {leaves : α → List Leaf} {part : Part α} {a : α}
    (h : AllLeaves P (leavesOfPart leaves part)) (hpart : part = .ok a) : AllLeaves P (leaves a) := by
  rw [hpart] at h
  exact h

theorem allLeaves_joins {P : Leaf → Prop} {links : List Link}
    (h : AllLeaves P (links.flatMap Link.leaves)) : ∀ j ∈ Link.joins links, AllLeaves P j.leaves := by
  intro j hj
  obtain ⟨link, hlink, heq⟩ := List.mem_filterMap.1 hj
  cases link <;> cases heq
  exact List.forall_mem_flatMap.1 h _ hlink

theorem allLeaves_setOperations {P : Leaf → Prop} {links : List Link}
    (h : AllLeaves P (links.flatMap Link.leaves)) :
    ∀ s ∈ Link.setOperations links, AllLeaves P s.leaves := by
  intro s hs
  obtain ⟨link, hlink, heq⟩ := List.mem_filterMap.1 hs
  cases link <;> cases heq
  exact List.forall_mem_flatMap.1 h _ hlink

namespace Inherits
variable {Q : Doc → Prop} {P : Leaf → Prop} (h : Inherits Q P)
include h

theorem find? {fields : List (Text × Doc)} (hfields : Q (.record fields)) {key : Text} {d : Doc}
    (hd : Doc.find? fields key = some d) : Q d := by
  obtain ⟨before, behind, rfl, -⟩ := List.lookup_eq_some_iff.1 hd
  exact h.field hfields (key, d) (by simp)

theorem part {α : Type} {leaves : α → List Leaf} {x : Part α}
    (hx : Sound (fun a => AllLeaves P (leaves a)) x) : AllLeaves P (leavesOfPart leaves x) := by
  cases x with
  | ok a => exact hx
  | error cause => exact List.forall_mem_singleton.2 (h.fault hx)

theorem faulty_value {cause : Fault} (hcause : cause ≠ .circular) :
    AllLeaves P (Value.faulty cause).leaves :=
  List.forall_mem_singleton.2 (h.fault hcause)

theorem faulty_condition {cause : Fault} (hcause : cause ≠ .circular) :
    AllLeaves P (Condition.faulty cause).leaves :=
  List.forall_mem_singleton.2 (h.fault hcause)

theorem faulty_arm {cause : Fault} (hcause : cause ≠ .circular) :
    AllLeaves P (Reading.faultyArm cause).leaves := by
  rw [Reading.faultyArm, Arm.leaves_mk]
  exact List.forall_mem_append.2 ⟨h.faulty_value hcause, h.faulty_value hcause⟩

/-! ### Readings -/

theorem leaves_ofText (s : Text) : (Reading.ofText s).Leaves P where
  value := by
    rw [Reading.ofText]
    dsimp only
    split
    · exact allLeaves_nil
    · exact h.faulty_value nofun
  condition := h.faulty_condition nofun
  arm := h.faulty_arm nofun
  values := by
    show AllLeaves P (Value.leavesOfAll (s.map fun _ => .faulty (.noAttribute .text "get")))
    rw [Value.leavesOfAll_eq, List.flatMap_map]
    exact allLeaves_flatMap fun _ _ => h.faulty_value nofun
  conditions := by
    show AllLeaves P (Condition.leavesOfAll (s.map fun _ => .faulty (.textIndex .text)))
    rw [Condition.leavesOfAll_eq, List.flatMap_map]
    exact allLeaves_flatMap fun _ _ => h.faulty_condition nofun
  arms := by
    show AllLeaves P (Arm.leavesOfAll (s.map fun _ => Reading.faultyArm (.textIndex .text)))
    rw [Arm.leavesOfAll_eq, List.flatMap_map]
    exact allLeaves_flatMap fun _ _ => h.faulty_arm nofun

theorem leaves_ofAtom (d : Doc) : (Reading.ofAtom d).Leaves P where
  value := by
    rw [Reading.ofAtom]
    dsimp only
    split
    · exact allLeaves_nil
    · exact h.faulty_value nofun
  condition := h.faulty_condition nofun
  arm := h.faulty_arm nofun
  values := List.forall_mem_singleton.2 (h.fault nofun)
  conditions := List.forall_mem_singleton.2 (h.fault nofun)
  arms := List.forall_mem_singleton.2 (h.fault nofun)

theorem leaves_ofList {items : List Doc} (hitems : ∀ d ∈ items, (Reading.ofDoc d).Leaves P) :
    (Reading.ofList items (Reading.ofItems items)).Leaves P where
  value := by
    rw [Reading.ofList]
    dsimp only
    split
    · exact allLeaves_nil
    · exact h.faulty_value nofun
  condition := h.faulty_condition nofun
  arm := h.faulty_arm nofun
  values := by
    show AllLeaves P (Value.leavesOfAll ((Reading.ofItems items).map Reading.value))
    rw [Reading.ofItems_eq_map, Value.leavesOfAll_eq, List.flatMap_map, List.flatMap_map]
    exact allLeaves_flatMap fun d hd => (hitems d hd).value
  conditions := by
    show AllLeaves P (Condition.leavesOfAll ((Reading.ofItems items).map Reading.condition))
    rw [Reading.ofItems_eq_map, Condition.leavesOfAll_eq, List.flatMap_map, List.flatMap_map]
    exact allLeaves_flatMap fun d hd => (hitems d hd).condition
  arms := by
    show AllLeaves P (Arm.leavesOfAll ((Reading.ofItems items).map Reading.arm))
    rw [Reading.ofItems_eq_map, Arm.leavesOfAll_eq, List.flatMap_map, List.flatMap_map]
    exact allLeaves_flatMap fun d hd => (hitems d hd).arm

section Record
variable {fields : List (Text × Doc)} (hfields : Q (.record fields))
  (hreadings : ∀ f ∈ fields, (Reading.ofDoc f.2).Leaves P)
include hfields hreadings

theorem reading {key : Text} {r : Reading} (hr : Reading.find? (Reading.ofFields fields) key = some r) :
    ∃ d, Doc.find? fields key = some d ∧ Q d ∧ r = Reading.ofDoc d ∧ r.Leaves P := by
  rw [Reading.find?_ofFields, Option.map_eq_some_iff] at hr
  obtain ⟨d, hd, rfl⟩ := hr
  obtain ⟨before, behind, rfl, -⟩ := List.lookup_eq_some_iff.1 hd
  exact ⟨d, hd, h.find? hfields hd, rfl, hreadings (key, d) (by simp)⟩

theorem valueAt (key : Text) :
    AllLeaves P (Reading.valueAt (Reading.ofFields fields) key).leaves := by
  unfold Reading.valueAt
  cases hr : Reading.find? (Reading.ofFields fields) key with
  | none => exact h.faulty_value nofun
  | some r =>
    obtain ⟨d, -, -, -, hleaves⟩ := h.reading hfields hreadings hr
    exact hleaves.value

omit hreadings in
theorem sourceAt (key : Text) : Q (Reading.sourceAt (Reading.ofFields fields) key) := by
  rw [sourceAt_ofFields]
  cases hd : Doc.find? fields key with
  | none => exact h.null
  | some d => exact h.find? hfields hd

theorem leaves_callOf : AllLeaves P (Reading.callOf (Reading.ofFields fields)).leaves := by
  have hname : Q (((Reading.find? (Reading.ofFields fields) "name").map Reading.source).getD
      (.text "")) := by
    cases hr : Reading.find? (Reading.ofFields fields) "name" with
    | none => exact h.noText
    | some r =>
      obtain ⟨d, -, hd, rfl, -⟩ := h.reading hfields hreadings hr
      rw [Option.map_some, Option.getD_some, source_ofDoc]
      exact hd
  have harguments : AllLeaves P (leavesOfPart Value.leavesOfAll
      (((Reading.find? (Reading.ofFields fields) "params").map Reading.values).getD (.ok []))) := by
    cases hr : Reading.find? (Reading.ofFields fields) "params" with
    | none => exact allLeaves_nil
    | some r =>
      obtain ⟨d, -, -, -, hleaves⟩ := h.reading hfields hreadings hr
      exact hleaves.values
  unfold Reading.callOf
  generalize ((Reading.find? (Reading.ofFields fields) "name").map Reading.source).getD
    (.text "") = name at hname
  generalize ((Reading.find? (Reading.ofFields fields) "params").map Reading.values).getD
    (.ok []) = arguments at harguments
  have htext := sound_textFor "upper" name
  cases htextFor : name.textFor "upper" with
  | error cause =>
    rw [htextFor] at htext
    exact h.faulty_value htext
  | ok s =>
    rw [htextFor] at htext
    obtain rfl : name = .text s := htext
    cases arguments with
    | error cause => exact harguments
    | ok arguments => exact List.forall_mem_cons.2 ⟨h.upper hname, harguments⟩

theorem leaves_choiceOf : AllLeaves P (Reading.choiceOf (Reading.ofFields fields)).leaves := by
  have harms : AllLeaves P (leavesOfPart Arm.leavesOfAll
      (((Reading.find? (Reading.ofFields fields) "cases").map Reading.arms).getD (.ok []))) := by
    cases hr : Reading.find? (Reading.ofFields fields) "cases" with
    | none => exact allLeaves_nil
    | some r =>
      obtain ⟨d, -, -, -, hleaves⟩ := h.reading hfields hreadings hr
      exact hleaves.arms
  have hotherwise : AllLeaves P (Value.leavesOfOption
      ((Reading.find? (Reading.ofFields fields) "else").map Reading.value)) := by
    cases hr : Reading.find? (Reading.ofFields fields) "else" with
    | none => exact allLeaves_nil
    | some r =>
      obtain ⟨d, -, -, -, hleaves⟩ := h.reading hfields hreadings hr
      exact hleaves.value
  unfold Reading.choiceOf
  generalize ((Reading.find? (Reading.ofFields fields) "cases").map Reading.arms).getD
    (.ok []) = arms at harms
  cases arms with
  | error cause => exact harms
  | ok arms => exact List.forall_mem_append.2 ⟨harms, hotherwise⟩

theorem leaves_valueOf : AllLeaves P (Reading.valueOf (Reading.ofFields fields)).leaves := by
  have hsource (key : Text) : P (.shown (Reading.sourceAt (Reading.ofFields fields) key)) :=
    h.shown (h.sourceAt hfields key)
  unfold Reading.valueOf
  split
  · split
    · exact List.forall_mem_singleton.2 (hsource "value")
    split
    · exact List.forall_mem_singleton.2 (hsource "value")
    split
    · exact h.leaves_callOf hfields hreadings
    split
    · exact h.leaves_choiceOf hfields hreadings
    split
    · cases hr : Reading.find? (Reading.ofFields fields) "value" with
      | none => exact h.faulty_condition nofun
      | some r =>
        obtain ⟨d, -, -, -, hleaves⟩ := h.reading hfields hreadings hr
        exact hleaves.condition
    split
    · exact List.forall_mem_singleton.2 (hsource "value")
    split
    · refine List.forall_mem_singleton.2 ?_
      rw [sourceAt_ofFields]
      exact h.call hfields
    · exact allLeaves_nil
  · exact allLeaves_nil

theorem leaves_conditionOf : AllLeaves P (Reading.conditionOf (Reading.ofFields fields)).leaves := by
  unfold Reading.conditionOf
  cases hlogic : Reading.find? (Reading.ofFields fields) "logic" with
  | some connective =>
    cases hparts : Reading.find? (Reading.ofFields fields) "conditions" with
    | none => exact h.faulty_condition nofun
    | some parts =>
      obtain ⟨d, -, hd, rfl, -⟩ := h.reading hfields hreadings hlogic
      obtain ⟨-, -, -, -, hleaves⟩ := h.reading hfields hreadings hparts
      have hconditions := hleaves.conditions
      dsimp only
      cases hread : parts.conditions with
      | error cause =>
        rw [hread] at hconditions
        exact hconditions
      | ok conditions =>
        rw [hread] at hconditions
        rw [source_ofDoc]
        exact List.forall_mem_cons.2 ⟨h.shown hd, hconditions⟩
  | none =>
    cases hoperator : Reading.find? (Reading.ofFields fields) "operator" with
    | none => exact h.faulty_condition nofun
    | some operator =>
      obtain ⟨d, -, hd, rfl, -⟩ := h.reading hfields hreadings hoperator
      dsimp only
      rw [source_ofDoc]
      exact List.forall_mem_cons.2 ⟨h.shown hd, List.forall_mem_append.2
        ⟨h.valueAt hfields hreadings "left", h.valueAt hfields hreadings "right"⟩⟩

theorem leaves_ofRecord : (Reading.ofRecord fields (Reading.ofFields fields)).Leaves P where
  value := by
    rw [Reading.ofRecord]
    dsimp only
    split
    · exact allLeaves_nil
    · exact h.leaves_valueOf hfields hreadings
  condition := h.leaves_conditionOf hfields hreadings
  arm := by
    show AllLeaves P (Arm.mk (Reading.valueAt (Reading.ofFields fields) "when")
      (Reading.valueAt (Reading.ofFields fields) "then")).leaves
    rw [Arm.leaves_mk]
    exact List.forall_mem_append.2
      ⟨h.valueAt hfields hreadings "when", h.valueAt hfields hreadings "then"⟩
  values := by
    show AllLeaves P (Value.leavesOfAll (fields.map fun f => (Reading.ofText f.1).value))
    rw [Value.leavesOfAll_eq, List.flatMap_map]
    exact allLeaves_flatMap fun f _ => (h.leaves_ofText f.1).value
  conditions := by
    show AllLeaves P (Condition.leavesOfAll (fields.map fun f => (Reading.ofText f.1).condition))
    rw [Condition.leavesOfAll_eq, List.flatMap_map]
    exact allLeaves_flatMap fun f _ => (h.leaves_ofText f.1).condition
  arms := by
    show AllLeaves P (Arm.leavesOfAll (fields.map fun f => (Reading.ofText f.1).arm))
    rw [Arm.leavesOfAll_eq, List.flatMap_map]
    exact allLeaves_flatMap fun f _ => (h.leaves_ofText f.1).arm

end Record

/-- The leaves of every reading of a document come from the document. -/
theorem leaves_ofDoc (d : Doc) (hd : Q d) : (Reading.ofDoc d).Leaves P := by
  induction d using Doc.nested with
  | null => exact h.leaves_ofAtom _
  | bool b => exact h.leaves_ofAtom _
  | int n => exact h.leaves_ofAtom _
  | real x => exact h.leaves_ofAtom _
  | text s => exact h.leaves_ofText s
  | list items ih =>
    rw [Reading.ofDoc]
    exact h.leaves_ofList fun d hmem => ih d hmem (h.item hd d hmem)
  | record fields ih =>
    rw [Reading.ofDoc]
    exact h.leaves_ofRecord hd fun f hmem => ih f hmem (h.field hd f hmem)

theorem leaves_value {part : Part Doc} (hpart : Sound Q part) :
    AllLeaves P (Value.ofPart part).leaves := by
  cases part with
  | ok d => exact (h.leaves_ofDoc d hpart).value
  | error cause => exact h.faulty_value hpart

theorem leaves_condition {part : Part Doc} (hpart : Sound Q part) :
    AllLeaves P (Condition.ofPart part).leaves := by
  cases part with
  | ok d => exact (h.leaves_ofDoc d hpart).condition
  | error cause => exact h.faulty_condition hpart

/-! ### Tasks -/

/-- The items of a document inherit from it, or are texts: a text has its glyphs and a record its keys
as items. -/
theorem elements {d : Doc} (hd : Q d) :
    Sound (fun items => ∀ i ∈ items, Q i ∨ ∃ s, i = .text s) d.elements := by
  cases d with
  | list items => exact fun i hi => .inl (h.item hd i hi)
  | text s =>
    intro i hi
    obtain ⟨g, -, rfl⟩ := List.mem_map.1 hi
    exact .inr ⟨[g], rfl⟩
  | record fields =>
    intro i hi
    obtain ⟨f, -, rfl⟩ := List.mem_map.1 hi
    exact .inr ⟨f.1, rfl⟩
  | _ => exact nofun

theorem fieldOf {d : Doc} (hd : Q d ∨ ∃ s, d = .text s) (key : Text) : Sound Q (d.field key) := by
  refine sound_field key ?_
  rintro fields rfl v hv
  obtain hd | ⟨s, hs⟩ := hd
  · exact h.find? hd hv
  · cases hs

theorem fieldOr {fields : List (Text × Doc)} (hfields : Q (.record fields)) (key : Text) {default : Doc}
    (hdefault : Q default) : Q (Plan.fieldOr fields key default) := by
  unfold Plan.fieldOr
  cases hd : Doc.find? fields key with
  | none => exact hdefault
  | some d => exact h.find? hfields hd

omit h in
theorem unlessVoid {d d' : Doc} (hd : Q d) (hd' : Plan.unlessVoid d = some d') : Q d' := by
  unfold Plan.unlessVoid at hd'
  split at hd'
  · cases hd'
  · cases hd'
    exact hd

theorem leaves_output {d : Doc} (hd : Q d ∨ ∃ s, d = .text s) :
    AllLeaves P (Output.ofDoc d).leaves := by
  refine List.forall_mem_append.2 ⟨h.leaves_value (h.fieldOf hd "value"), ?_⟩
  refine allLeaves_option fun name hname => List.forall_mem_singleton.2 ?_
  cases d with
  | record fields =>
    obtain hd | ⟨s, hs⟩ := hd
    · obtain ⟨label, hlabel, rfl⟩ := Option.map_eq_some_iff.1 hname
      exact h.display (unlessVoid (h.fieldOr hd "alias" h.null) hlabel)
    · cases hs
  | _ => cases hname

theorem leaves_target {d : Doc} (hd : Q d) : AllLeaves P (Target.ofDoc d).leaves := by
  unfold Target.ofDoc
  split
  · exact allLeaves_nil
  · refine h.part ((h.elements hd).map fun items hitems => allLeaves_flatMap fun o ho => ?_)
    obtain ⟨i, hi, rfl⟩ := List.mem_map.1 ho
    exact h.leaves_output (hitems i hi)

theorem leaves_sortKey {d : Doc} (hd : Q d ∨ ∃ s, d = .text s) :
    AllLeaves P (SortKey.ofDoc d).leaves := by
  refine List.forall_mem_cons.2 ⟨?_, h.leaves_value (h.fieldOf hd "value")⟩
  cases d with
  | record fields =>
    obtain hd | ⟨s, hs⟩ := hd
    · exact h.display (h.fieldOr hd "direction" h.ascending)
    · cases hs
  | _ => exact h.shown h.noText

theorem leaves_order {d : Doc} (hd : Q d) :
    AllLeaves P (leavesOfOption (leavesOfPart (·.flatMap SortKey.leaves)) (orderOf d)) := by
  refine allLeaves_option fun keys hkeys => ?_
  obtain ⟨d', hd', rfl⟩ := Option.map_eq_some_iff.1 hkeys
  refine h.part ((h.elements (unlessVoid hd hd')).map fun items hitems =>
    allLeaves_flatMap fun key hkey => ?_)
  obtain ⟨i, hi, rfl⟩ := List.mem_map.1 hkey
  exact h.leaves_sortKey (hitems i hi)

theorem leaves_filter {d : Doc} (hd : Q d) :
    AllLeaves P (leavesOfOption Condition.leaves (conditionOf? d)) := by
  refine allLeaves_option fun c hc => ?_
  obtain ⟨d', hd', rfl⟩ := Option.map_eq_some_iff.1 hc
  exact (h.leaves_ofDoc d' (unlessVoid hd hd')).condition

theorem leaves_shown {part : Part Doc} (hpart : Sound (fun d => P (.shown d)) part) :
    AllLeaves P (leavesOfPart ([.shown ·]) part) :=
  h.part (hpart.mono fun _ hd => List.forall_mem_singleton.2 hd)

theorem leaves_join {d : Doc} (hd : Q d ∨ ∃ s, d = .text s) : AllLeaves P (Join.ofDoc d).leaves := by
  have hkind : Sound (fun kind => P (.shown kind)) (d.field "type") :=
    (h.fieldOf hd "type").mono fun _ => h.shown
  have htable : Sound (fun table => P (.shown table)) (d.field "table" >>= quoteTable) :=
    (h.fieldOf hd "table").bind fun table htable =>
      (sound_quoteTable table).mono fun _ => h.quoted htable
  exact List.forall_mem_append.2 ⟨List.forall_mem_append.2 ⟨h.leaves_shown hkind,
    h.leaves_shown htable⟩, h.leaves_condition (h.fieldOf hd "condition")⟩

theorem leaves_operand {d : Doc} (hd : Q d ∨ ∃ s, d = .text s) :
    AllLeaves P (leavesOfPart ([.call ·]) (d.field "target_task_id")) := by
  refine h.part (sound_field "target_task_id" ?_)
  rintro fields rfl task htask
  obtain hd | ⟨s, hs⟩ := hd
  · have hcall := h.call hd
    rw [htask] at hcall
    exact List.forall_mem_singleton.2 hcall
  · cases hs

theorem leaves_link {d : Doc} (hd : Q d ∨ ∃ s, d = .text s) :
    Sound (fun link => AllLeaves P (Link.leaves link)) (Link.ofDoc d) := by
  refine (h.fieldOf hd "type").bind fun type htype => (sound_has type "JOIN").bind fun isJoin _ => ?_
  cases isJoin with
  | true => exact h.leaves_join hd
  | false =>
    cases type.isOneOf setOperators with
    | true => exact List.forall_mem_cons.2 ⟨h.shown htype, h.leaves_operand hd⟩
    | false => exact allLeaves_nil

/-- The leaves of a task come from its fields. -/
theorem leaves_ofFields {fields : List (Text × Doc)} (hfields : Q (.record fields)) :
    AllLeaves P (Task.ofFields fields).leaves := by
  have hlinks : AllLeaves P (leavesOfPart (·.flatMap Link.leaves) (Task.ofFields fields).links) :=
    h.part ((h.elements (h.fieldOr hfields "structural_logic" h.empty)).bind fun items hitems =>
      (Sound.mapM fun d hd => h.leaves_link (hitems d hd)).mono fun _ => allLeaves_flatMap)
  have hdistinct : AllLeaves P (leavesOfPart (fun _ => []) (Task.ofFields fields).distinct) :=
    allLeaves_nil
  have htable : AllLeaves P
      (leavesOfOption (leavesOfPart ([.shown ·])) (Task.ofFields fields).table) := by
    refine allLeaves_option fun table htable => ?_
    obtain ⟨d, hd, rfl⟩ := Option.map_eq_some_iff.1 htable
    exact h.leaves_shown ((sound_quoteTable d).mono fun _ =>
      h.quoted (unlessVoid (h.fieldOr hfields "main_table" h.null) hd))
  have hgrouping : AllLeaves P (leavesOfOption (leavesOfPart fun columns => [.shown (.text columns)])
      (Task.ofFields fields).grouping) := by
    refine allLeaves_option fun columns hcolumns => ?_
    obtain ⟨d, hd, rfl⟩ := Option.map_eq_some_iff.1 hcolumns
    refine h.part ((sound_groupingOf d).mono fun _ hgrouped => List.forall_mem_singleton.2 ?_)
    exact h.grouped (unlessVoid (h.fieldOr hfields "group_by" h.null) hd) hgrouped
  have hlimit : AllLeaves P (leavesOfOption ([.shown ·]) (Task.ofFields fields).limit) :=
    allLeaves_option fun limit hlimit => List.forall_mem_singleton.2
      (h.shown (unlessVoid (h.fieldOr hfields "limit_by" h.null) hlimit))
  unfold Task.leaves
  simp only [AllLeaves, List.forall_mem_append]
  exact ⟨⟨⟨⟨⟨⟨⟨⟨hlinks, hdistinct⟩, h.leaves_target (h.fieldOr hfields "target" h.empty)⟩, htable⟩,
    h.leaves_filter (h.fieldOr hfields "where_clause" h.null)⟩, hgrouping⟩,
    h.leaves_filter (h.fieldOr hfields "having_clause" h.null)⟩,
    h.leaves_order (h.fieldOr hfields "order_by" h.null)⟩, hlimit⟩

/-! ### Plans -/

omit h in
theorem insert {tasks : List (Doc × List (Text × Doc))} (htasks : ∀ t ∈ tasks, Q (.record t.2))
    (id : Doc) {task : List (Text × Doc)} (htask : Q (.record task)) :
    ∀ t ∈ Plan.insert tasks id task, Q (.record t.2) := by
  fun_induction Plan.insert tasks id task with
  | case1 => exact List.forall_mem_singleton.2 htask
  | case2 k t rest _ => exact List.forall_mem_cons.2 ⟨htask, (List.forall_mem_cons.1 htasks).2⟩
  | case3 k t rest _ ih =>
    obtain ⟨ht, hrest⟩ := List.forall_mem_cons.1 htasks
    exact List.forall_mem_cons.2 ⟨ht, ih hrest⟩

omit h in
theorem collect {tasks found : List (Doc × List (Text × Doc))} {items : List Doc}
    (htasks : ∀ t ∈ tasks, Q (.record t.2)) (hitems : ∀ d ∈ items, Q d ∨ ∃ s, d = .text s)
    (hfound : Plan.collect tasks items = .ok found) : ∀ t ∈ found, Q (.record t.2) := by
  induction items generalizing tasks with
  | nil =>
    cases hfound
    exact htasks
  | cons d rest ih =>
    obtain ⟨hd, hrest⟩ := List.forall_mem_cons.1 hitems
    obtain ⟨id, -, hfound⟩ := ok_of_bind hfound
    obtain ⟨-, -, hfound⟩ := ok_of_bind hfound
    obtain ⟨fields, hfields, hfound⟩ := ok_of_bind hfound
    cases d with
    | record fields' =>
      cases hfields
      obtain hd | ⟨s, hs⟩ := hd
      · exact ih (insert htasks id hd) hrest hfound
      · cases hs
    | _ => cases hfields

/-- The tasks of a plan come from its document. -/
theorem tasks_ofDoc {d : Doc} {plan : Plan} (hd : Q d) (hplan : Plan.ofDoc d = .ok plan) :
    ∀ t ∈ plan.tasks, Q (.record t.2) := by
  obtain ⟨list, hlist, hplan⟩ := ok_of_bind hplan
  obtain ⟨items, hitems, hplan⟩ := ok_of_bind hplan
  obtain ⟨tasks, htasks, hplan⟩ := ok_of_bind hplan
  cases hplan
  have hQ : Q list := by
    cases d with
    | record fields =>
      cases hlist
      exact h.fieldOr hd "tasks" h.empty
    | _ => cases hlist
  have helements := h.elements hQ
  rw [hitems] at helements
  exact collect (by simp) helements htasks

/-- The leaves of the tasks that are found in a plan come from its document. -/
theorem leaves_find? {d : Doc} {plan : Plan} (hd : Q d) (hplan : Plan.ofDoc d = .ok plan) {id : Int}
    {task : Task} (htask : plan.find? id = some task) : AllLeaves P task.leaves := by
  obtain ⟨t, ht, rfl⟩ := Option.map_eq_some_iff.1 htask
  exact h.leaves_ofFields (h.tasks_ofDoc hd hplan t (List.mem_of_find?_eq_some ht))

end Inherits

/-! ## Faults -/

/-- No malformed part of a task has a circle as its fault. -/
theorem fault_ofFields_ne_circular {fields : List (Text × Doc)} {cause : Fault}
    (hcause : .fault cause ∈ (Task.ofFields fields).leaves) : cause ≠ .circular := by
  have h : Inherits (fun _ => True) fun | .fault cause => cause ≠ .circular | _ => True := {
    item := fun _ _ _ => trivial
    field := fun _ _ _ => trivial
    null := trivial
    empty := trivial
    noText := trivial
    ascending := trivial
    shown := fun _ => trivial
    display := fun _ => trivial
    upper := fun _ => trivial
    quoted := fun _ _ => trivial
    grouped := fun _ _ => trivial
    call := fun _ => trivial
    fault := fun hcause => hcause }
  exact h.leaves_ofFields trivial _ hcause

theorem fault_ne_circular {plan : Plan} {id : Int} {task : Task} (htask : plan.find? id = some task)
    {cause : Fault} (hcause : .fault cause ∈ task.leaves) : cause ≠ .circular := by
  obtain ⟨t, -, rfl⟩ := Option.map_eq_some_iff.1 htask
  exact fault_ofFields_ne_circular hcause

end QueryBench.Plan
