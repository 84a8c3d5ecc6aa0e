import QueryBench.Proofs.Json.Checked

/-!
# Records written one field a line

A record whose values are read back is read back from its indented text too: what stands between
two fields is a comma and white space. Its keys and values must be written as they are on one line,
which holds of plain keys and of numbers.

Main definition: `Json.brokenFields`. Main statement: `Json.read_write_broken`.
-/
set_option autoImplicit false

namespace QueryBench.Json

/-- The fields behind the first one, each on a line of its own, and the closing brace. -/
def brokenFields (lead last : Text) : List (Text × Doc) → Text
  | [] => last ++ [.char '\x7d']
  | (k, v) :: rest => .char ',' :: (lead ++ (writeText false k ++
      (.char ':' :: .char ' ' :: (lineText v ++ brokenFields lead last rest))))

theorem skipSpace_append {s : Text} (hs : ∀ g ∈ s, Cursor.isSpace g = true) {g : Glyph}
    (hg : Cursor.isSpace g = false) (p : Nat) (rest : Text) :
    Cursor.skipSpace ⟨p, s ++ g :: rest⟩ = ⟨p + s.length, g :: rest⟩ := by
  have htake : (s ++ g :: rest).takeWhile Cursor.isSpace = s := by
    rw [List.takeWhile_append_of_pos hs, List.takeWhile_cons_of_neg (by simp [hg]), List.append_nil]
  show Cursor.mk (p + ((s ++ g :: rest).takeWhile Cursor.isSpace).length)
    ((s ++ g :: rest).drop ((s ++ g :: rest).takeWhile Cursor.isSpace).length) = _
  rw [htake, List.drop_left]

section
variable {lead last : Text} (hlead : ∀ g ∈ lead, Cursor.isSpace g = true)
  (hlast : ∀ g ∈ last, Cursor.isSpace g = true)
include hlast

theorem endsNumber_brokenFields (rest : List (Text × Doc)) (tail : Text) :
    EndsNumber (brokenFields lead last rest ++ tail) := by
  cases rest with
  | nil =>
    cases last with
    | nil =>
      intro g hg
      cases hg
      decide
    | cons space last =>
      have hspaces := endsNumber_spaces hlast
      intro g hg
      exact hspaces g hg
  | cons f rest =>
    intro g hg
    cases hg
    decide

include hlead

theorem readFields_broken {k : Text} {v : Doc} {rest : List (Text × Doc)}
    (hread : ∀ f ∈ (k, v) :: rest, ReadBack f.2) {depth : Nat}
    (hdepth : ∀ f ∈ (k, v) :: rest, f.2.depth ≤ depth) (tail : Text) (acc : List (Text × Doc))
    (fuel p : Nat) (hfuel : (lineText v ++ brokenFields lead last rest).length < fuel) :
    ∃ p', readFields standard fuel depth acc ⟨p, writeText false k ++
        (.char ':' :: .char ' ' :: (lineText v ++ (brokenFields lead last rest ++ tail)))⟩ =
      .ok (.record (Doc.mergedFields acc ((k, v) :: rest)), ⟨p', tail⟩) := by
  induction rest generalizing k v acc fuel p with
  | nil =>
    cases fuel with
    | zero => omega
    | succ fuel =>
      simp only [brokenFields, List.length_append, List.length_cons] at hfuel
      have hv := hread (k, v) List.mem_cons_self fuel depth (p + (writeText false k).length + 2)
        (brokenFields lead last [] ++ tail) (by dsimp only; omega) (hdepth _ List.mem_cons_self)
        (endsNumber_brokenFields hlast [] tail)
      rw [readFields_step (skipSpace_lineText v _ _).2, hv, ok_bind]
      simp only [brokenFields, List.append_assoc, List.cons_append, List.nil_append]
      rw [skipSpace_append hlast (by decide)]
      exact ⟨_, rfl⟩
  | cons f rest ih =>
    obtain ⟨k', v'⟩ := f
    cases fuel with
    | zero => omega
    | succ fuel =>
      simp only [brokenFields, List.length_append, List.length_cons] at hfuel
      have hv := hread (k, v) List.mem_cons_self fuel depth (p + (writeText false k).length + 2)
        (brokenFields lead last ((k', v') :: rest) ++ tail) (by dsimp only; omega)
        (hdepth _ List.mem_cons_self) (endsNumber_brokenFields hlast _ tail)
      obtain ⟨p', hrest⟩ := ih (fun x hx => hread x (List.mem_cons_of_mem _ hx))
        (fun x hx => hdepth x (List.mem_cons_of_mem _ hx)) (Doc.put acc k v.merged) fuel
        (p + (writeText false k).length + 2 + (lineText v).length + 1 + lead.length)
        (by simp only [List.length_append]; omega)
      refine ⟨p', ?_⟩
      rw [readFields_step (skipSpace_lineText v _ _).2, hv, ok_bind]
      simp only [brokenFields, List.append_assoc, List.cons_append]
      rw [skipSpace_of_not_space (by decide)]
      simp only [Cursor.advance, List.drop_one, List.tail_cons]
      have hquote : ∃ behind, writeText false k' ++ (.char ':' :: .char ' ' ::
          (lineText v' ++ (brokenFields lead last rest ++ tail))) = .char '"' :: behind := ⟨_, rfl⟩
      obtain ⟨behind, hquote⟩ := hquote
      rw [hquote] at hrest ⊢
      rw [skipSpace_append hlead (by decide), hrest]
      rfl

theorem readValue_broken {k : Text} {v : Doc} {rest : List (Text × Doc)}
    (hread : ∀ f ∈ (k, v) :: rest, ReadBack f.2) (tail : Text) (fuel depth p : Nat)
    (hfuel : (lineText v ++ brokenFields lead last rest).length + 1 < fuel)
    (hdepth : (Doc.record ((k, v) :: rest)).depth ≤ depth) :
    ∃ p', readValue standard fuel depth ⟨p, .char '\x7b' :: (lead ++ (writeText false k ++
        (.char ':' :: .char ' ' :: (lineText v ++ (brokenFields lead last rest ++ tail)))))⟩ =
      .ok ((Doc.record ((k, v) :: rest)).merged, ⟨p', tail⟩) := by
  obtain ⟨fuel, rfl⟩ : ∃ n, fuel = n + 1 := ⟨fuel - 1, by omega⟩
  obtain ⟨depth, rfl⟩ : ∃ n, depth = n + 1 := ⟨depth - 1, by simp only [Doc.depth] at hdepth; omega⟩
  simp only [Doc.depth, Nat.add_le_add_iff_right, Doc.fieldsDepth_le_iff] at hdepth
  obtain ⟨p', hfields⟩ := readFields_broken hlead hlast hread hdepth tail [] fuel
    (p + 1 + lead.length) (by omega)
  refine ⟨p', ?_⟩
  obtain ⟨behind, hquote⟩ : ∃ behind, writeText false k ++ (.char ':' :: .char ' ' ::
      (lineText v ++ (brokenFields lead last rest ++ tail))) = .char '"' :: behind := ⟨_, rfl⟩
  rw [hquote] at hfields ⊢
  rw [readValue]
  simp only [Cursor.advance, List.drop_one, List.tail_cons]
  rw [skipSpace_append hlead (by decide), Doc.merged]
  exact hfields

end

/-! ## The indented text -/

/-- The keys and values that every style writes as a single line has them. -/
def Unstyled (style : Style) (f : Text × Doc) : Prop :=
  writeText style.ascii f.1 = writeText false f.1 ∧ ∀ depth, writeAt style depth f.2 = lineText f.2

theorem intercalate_broken {style : Style} (hstyle : style.indent.isSome = true) {k : Text}
    {v : Doc} {rest : List (Text × Doc)} (h : ∀ f ∈ (k, v) :: rest, Unstyled style f) (depth : Nat)
    (last : Text) :
    (style.between depth).intercalate (writeFields style depth ((k, v) :: rest)) ++
        (last ++ [.char '\x7d']) =
      writeText false k ++ (.char ':' :: .char ' ' ::
        (lineText v ++ brokenFields (style.lineBreak depth) last rest)) := by
  have hcolon : Text.ofString ": " = [.char ':', .char ' '] := rfl
  have hbetween : style.between depth = .char ',' :: style.lineBreak depth := by
    rw [Style.between, if_pos hstyle]
    rfl
  induction rest generalizing k v with
  | nil =>
    obtain ⟨hkey, hvalue⟩ := h (k, v) List.mem_cons_self
    simp [writeFields, brokenFields, hkey, hvalue, hcolon]
  | cons f rest ih =>
    obtain ⟨k', v'⟩ := f
    obtain ⟨hkey, hvalue⟩ := h (k, v) List.mem_cons_self
    have hrest := ih fun x hx => h x (List.mem_cons_of_mem _ hx)
    rw [writeFields, List.intercalate_cons_of_ne_nil (by simp [writeFields]), List.append_assoc,
      List.append_assoc, hrest, hbetween]
    simp [brokenFields, hkey, hvalue, hcolon]

theorem isSpace_lineBreak (style : Style) (depth : Nat) :
    ∀ g ∈ style.lineBreak depth, Cursor.isSpace g = true := by
  intro g hg
  unfold Style.lineBreak at hg
  split at hg
  next => cases hg
  next n =>
    obtain hg | hg := List.mem_append.1 hg
    · obtain rfl := List.mem_singleton.1 hg
      decide
    · obtain rfl := List.eq_of_mem_replicate hg
      decide

theorem read_write_broken {style : Style} (hstyle : style.indent.isSome = true)
    {fields : List (Text × Doc)} (hne : fields ≠ []) (hfields : ∀ f ∈ fields, Unstyled style f)
    (hshort : (Doc.record fields).Short) (hdepth : (Doc.record fields).depth ≤ depthLimit) :
    read (write style (.record fields)) = .ok (Doc.record fields).merged := by
  obtain ⟨⟨k, v⟩, rest, rfl⟩ := List.exists_cons_of_ne_nil hne
  have hlead := isSpace_lineBreak style 1
  have hlast := isSpace_lineBreak style 0
  have htext : write style (.record ((k, v) :: rest)) = .char '\x7b' :: (style.lineBreak 1 ++
      (writeText false k ++ (.char ':' :: .char ' ' ::
        (lineText v ++ brokenFields (style.lineBreak 1) (style.lineBreak 0) rest)))) := by
    have hbraces : Text.ofString "\x7b" = [.char '\x7b'] ∧ Text.ofString "\x7d" = [.char '\x7d'] :=
      ⟨rfl, rfl⟩
    rw [write, writeAt, block_eq (by simp [writeFields]), List.append_assoc, hbraces.1, hbraces.2,
      intercalate_broken hstyle hfields]
    rfl
  have hread (f : Text × Doc) (hf : f ∈ (k, v) :: rest) : ReadBack f.2 :=
    readValue_lineText (Doc.short_record.1 hshort f hf)
  have hlong :
      (lineText v ++ brokenFields (style.lineBreak 1) (style.lineBreak 0) rest).length + 1 <
        2 * (write style (.record ((k, v) :: rest))).length + 2 := by
    rw [htext]
    simp only [List.length_cons, List.length_append]
    omega
  obtain ⟨p', hvalue⟩ := readValue_broken hlead hlast hread [] _ depthLimit 0 hlong hdepth
  rw [List.append_nil, ← htext] at hvalue
  have hall : readAll standard (write style (.record ((k, v) :: rest))) =
      .ok (Doc.record ((k, v) :: rest)).merged := by
    rw [htext] at hvalue ⊢
    rw [readAll_of_not_mark (by decide), skipSpace_of_not_space (by decide), hvalue]
    rfl
  unfold read readWith
  rw [hall]
  rfl

end QueryBench.Json
