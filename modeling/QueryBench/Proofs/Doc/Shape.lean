import Mathlib.Algebra.Group.Nat.Defs
import QueryBench.Number.Numeral
import QueryBench.Doc.Access

/-!
# The shape of documents

Induction over a document goes from its items and fields to the whole. Three properties that the
text of a document depends on follow its shape: how deep it is nested, whether its whole numbers are
short, and what becomes of repeated keys.

Main definitions: `Doc.merged`, `Doc.Short`. Main statement: the induction `Doc.nested`.
-/
set_option autoImplicit false

namespace QueryBench.Doc

theorem sizeOf_item_lt {items : List Doc} {d : Doc} (hd : d ∈ items) : sizeOf d < sizeOf (list items) := by
  have := List.sizeOf_lt_of_mem hd
  simp only [list.sizeOf_spec]
  omega

theorem sizeOf_field_lt {fields : List (Text × Doc)} {f : Text × Doc} (hf : f ∈ fields) :
    sizeOf f.2 < sizeOf (record fields) := by
  have := List.sizeOf_lt_of_mem hf
  obtain ⟨k, v⟩ := f
  simp only [record.sizeOf_spec, Prod.mk.sizeOf_spec] at *
  omega

/-- What holds of the items of every list and of the fields of every record goes on to hold of the
list and of the record. -/
@[elab_as_elim]
theorem nested {motive : Doc → Prop} (null : motive .null) (bool : ∀ b, motive (.bool b))
    (int : ∀ n, motive (.int n)) (real : ∀ x, motive (.real x)) (text : ∀ s, motive (.text s))
    (list : ∀ items, (∀ d ∈ items, motive d) → motive (.list items))
    (record : ∀ fields, (∀ f ∈ fields, motive f.2) → motive (.record fields)) (d : Doc) :
    motive d := by
  match d with
  | .null => exact null
  | .bool b => exact bool b
  | .int n => exact int n
  | .real x => exact real x
  | .text s => exact text s
  | .list items =>
    exact list items fun d hd => nested null bool int real text list record d
  | .record fields =>
    exact record fields fun f hf => nested null bool int real text list record f.2
termination_by d
decreasing_by
  · exact sizeOf_item_lt hd
  · exact sizeOf_field_lt hf

/-! ## Depth -/

theorem itemsDepth_le_iff {items : List Doc} {n : Nat} :
    itemsDepth items ≤ n ↔ ∀ d ∈ items, d.depth ≤ n := by
  induction items with
  | nil => simp [itemsDepth]
  | cons d rest ih => rw [itemsDepth, Nat.max_le, ih, List.forall_mem_cons]

theorem fieldsDepth_le_iff {fields : List (Text × Doc)} {n : Nat} :
    fieldsDepth fields ≤ n ↔ ∀ f ∈ fields, f.2.depth ≤ n := by
  induction fields with
  | nil => simp [fieldsDepth]
  | cons f rest ih => rw [fieldsDepth, Nat.max_le, ih, List.forall_mem_cons]

theorem depth_record {fields : List (Text × Doc)} {n : Nat} (h : ∀ f ∈ fields, f.2.depth ≤ n) :
    (record fields).depth ≤ n + 1 :=
  Nat.succ_le_succ (fieldsDepth_le_iff.2 h)

/-! ## Short numbers -/

mutual

/-- Are all whole numbers of a document short enough to be written? -/
def Short : Doc → Prop
  | .int n => n.natAbs < 10 ^ Number.numeralLimit
  | .list items => ShortItems items
  | .record fields => ShortFields fields
  | _ => True

def ShortItems : List Doc → Prop
  | [] => True
  | d :: rest => Short d ∧ ShortItems rest

def ShortFields : List (Text × Doc) → Prop
  | [] => True
  | (_, v) :: rest => Short v ∧ ShortFields rest

end

theorem short_list {items : List Doc} : Short (.list items) ↔ ∀ d ∈ items, d.Short := by
  rw [Short]
  induction items with
  | nil => simp [ShortItems]
  | cons d rest ih => simp [ShortItems, ih]

theorem short_record {fields : List (Text × Doc)} :
    Short (.record fields) ↔ ∀ f ∈ fields, f.2.Short := by
  rw [Short]
  induction fields with
  | nil => simp [ShortFields]
  | cons f rest ih => simp [ShortFields, ih]

/-! ## Repeated keys -/

mutual

/-- The document with the fields of one key merged into the first of them, the last value staying. -/
def merged : Doc → Doc
  | .list items => .list (mergedItems items)
  | .record fields => .record (mergedFields [] fields)
  | d => d

def mergedItems : List Doc → List Doc
  | [] => []
  | d :: rest => merged d :: mergedItems rest

/-- The fields added one by one to those in `acc`. -/
def mergedFields (acc : List (Text × Doc)) : List (Text × Doc) → List (Text × Doc)
  | [] => acc
  | (k, v) :: rest => mergedFields (put acc k (merged v)) rest

end

theorem mergedItems_eq (items : List Doc) : mergedItems items = items.map merged := by
  induction items with
  | nil => rfl
  | cons d rest ih => simp [mergedItems, ih]

theorem put_of_not_mem {fields : List (Text × Doc)} {k : Text} (hk : k ∉ fields.map Prod.fst)
    (v : Doc) : put fields k v = fields ++ [(k, v)] := by
  fun_induction put fields k v with
  | case1 => rfl
  | case2 v' rest => simp at hk
  | case3 k' v' rest hne ih =>
    rw [List.map_cons, List.mem_cons, not_or] at hk
    rw [ih hk.2, List.cons_append]

theorem put_keys_of_mem {fields : List (Text × Doc)} {k : Text} (hk : k ∈ fields.map Prod.fst)
    (v : Doc) : (put fields k v).map Prod.fst = fields.map Prod.fst := by
  fun_induction put fields k v with
  | case1 => simp at hk
  | case2 v' rest => simp
  | case3 k' v' rest hne ih =>
    rw [List.map_cons, List.mem_cons] at hk
    rw [List.map_cons, List.map_cons, ih (hk.resolve_left (Ne.symm hne))]

theorem nodup_put {fields : List (Text × Doc)} (h : (fields.map Prod.fst).Nodup) (k : Text) (v : Doc) :
    ((put fields k v).map Prod.fst).Nodup := by
  by_cases hk : k ∈ fields.map Prod.fst
  · rw [put_keys_of_mem hk]
    exact h
  · rw [put_of_not_mem hk, List.map_append, List.nodup_append]
    refine ⟨h, by simp, ?_⟩
    intro a ha b hb heq
    simp only [List.map_cons, List.map_nil, List.mem_singleton] at hb
    exact hk (hb ▸ heq ▸ ha)

theorem forall_mem_put {P : Text × Doc → Prop} {fields : List (Text × Doc)} (h : ∀ f ∈ fields, P f)
    (k : Text) {v : Doc} (hv : P (k, v)) : ∀ f ∈ put fields k v, P f := by
  fun_induction put fields k v with
  | case1 => simpa using hv
  | case2 v' rest =>
    exact List.forall_mem_cons.2 ⟨hv, (List.forall_mem_cons.1 h).2⟩
  | case3 k' v' rest hne ih =>
    exact List.forall_mem_cons.2 ⟨(List.forall_mem_cons.1 h).1, ih (List.forall_mem_cons.1 h).2⟩

theorem find?_cons (k name : Text) (v : Doc) (rest : List (Text × Doc)) :
    find? ((k, v) :: rest) name = if name = k then some v else find? rest name := by
  rw [find?, List.lookup_cons]
  by_cases h : name = k
  · rw [if_pos h, h, beq_self_eq_true]
  · rw [if_neg h, beq_false_of_ne h]
    rfl

theorem find?_put (fields : List (Text × Doc)) (key name : Text) (value : Doc) :
    find? (put fields key value) name =
      if name = key then some value else find? fields name := by
  induction fields with
  | nil => exact find?_cons key name value []
  | cons f rest ih =>
    obtain ⟨k, v⟩ := f
    rw [put]
    split
    next h =>
      subst h
      rw [find?_cons, find?_cons]
      split <;> rfl
    next h =>
      rw [find?_cons, find?_cons, ih]
      by_cases hname : name = k
      · rw [if_pos hname, if_neg fun hkey => h (hname.symm.trans hkey), if_pos hname]
      · rw [if_neg hname, if_neg hname]

theorem mem_of_find? {fields : List (Text × Doc)} {k : Text} {v : Doc} (h : find? fields k = some v) :
    (k, v) ∈ fields := by
  obtain ⟨before, after, rfl, -⟩ := List.lookup_eq_some_iff.1 h
  exact List.mem_append_right before List.mem_cons_self

theorem find?_of_field {d v : Doc} {key : Text} (h : d.field key = .ok v) :
    ∃ fields, d = record fields ∧ find? fields key = some v := by
  cases d with
  | record fields =>
    rw [field] at h
    cases hfind : find? fields key with
    | none =>
      rw [hfind] at h
      cases h
    | some w =>
      rw [hfind] at h
      cases h
      exact ⟨fields, rfl, hfind⟩
  | _ => cases h

/-- A field that is set to its value stays as it is. -/
theorem put_eq_self {fields : List (Text × Doc)} {k : Text} {v : Doc} (h : find? fields k = some v) :
    put fields k v = fields := by
  induction fields with
  | nil => cases h
  | cons f rest ih =>
    obtain ⟨k', v'⟩ := f
    rw [find?_cons] at h
    rw [put]
    split at h
    next hk =>
      cases h
      rw [if_pos hk.symm]
    next hk => rw [if_neg (Ne.symm hk), ih h]

theorem put_put_again (fields : List (Text × Doc)) {k l : Text} (hne : k ≠ l) (v w : Doc) :
    put (put (put (put fields k v) l w) k v) l w = put (put fields k v) l w := by
  have hk : find? (put (put fields k v) l w) k = some v := by
    rw [find?_put, if_neg hne, find?_put, if_pos rfl]
  have hl : find? (put (put fields k v) l w) l = some w := by
    rw [find?_put, if_pos rfl]
  rw [put_eq_self hk, put_eq_self hl]

/-- Fields of different keys are kept as they are. -/
theorem mergedFields_eq {acc fields : List (Text × Doc)}
    (hkeys : ((acc ++ fields).map Prod.fst).Nodup) :
    mergedFields acc fields = acc ++ fields.map fun f => (f.1, f.2.merged) := by
  induction fields generalizing acc with
  | nil => simp [mergedFields]
  | cons f rest ih =>
    obtain ⟨k, v⟩ := f
    have hk : k ∉ acc.map Prod.fst := by
      intro hmem
      rw [List.map_append, List.nodup_append] at hkeys
      exact hkeys.2.2 k hmem k (by simp) rfl
    rw [mergedFields, put_of_not_mem hk, ih (by simpa using hkeys)]
    simp

theorem merged_record {fields : List (Text × Doc)} (hkeys : (fields.map Prod.fst).Nodup) :
    merged (.record fields) = .record (fields.map fun f => (f.1, f.2.merged)) := by
  rw [merged, mergedFields_eq (by simpa using hkeys), List.nil_append]

end QueryBench.Doc
