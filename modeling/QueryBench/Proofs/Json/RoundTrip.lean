import QueryBench.Proofs.Doc.Shape
import QueryBench.Proofs.Json.Decimal
import QueryBench.Proofs.Json.Quoted

/-!
# Reading what was written

A document on one line is read back, but that a record with a repeated key keeps the first place and
the last value of the key. Whole numbers must be short enough to be read, and lists and records may
not be nested too deep.

Main definition: `lineText`. Main statements: `readValue_lineText` and `read_write_spaces`.
-/
set_option autoImplicit false

namespace QueryBench.Json

/-! ## The text on one line -/

mutual

/-- The text of a document on one line, each bracket beside what it encloses. -/
def lineText : Doc → Text
  | .null => "null"
  | .bool b => if b then "true" else "false"
  | .int n => toString n
  | .real x => writeFloat x
  | .text s => writeText false s
  | .list items => .char '[' :: lineItems items
  | .record fields => .char '\x7b' :: lineFields fields

/-- The items of a list and its closing bracket. -/
def lineItems : List Doc → Text
  | [] => [.char ']']
  | d :: rest => lineText d ++ moreItems rest

/-- The items behind the first one, each behind a comma. -/
def moreItems : List Doc → Text
  | [] => [.char ']']
  | d :: rest => .char ',' :: .char ' ' :: (lineText d ++ moreItems rest)

/-- The fields of a record and its closing brace. -/
def lineFields : List (Text × Doc) → Text
  | [] => [.char '\x7d']
  | (k, v) :: rest =>
    writeText false k ++ (.char ':' :: .char ' ' :: (lineText v ++ moreFields rest))

/-- The fields behind the first one, each after a comma. -/
def moreFields : List (Text × Doc) → Text
  | [] => [.char '\x7d']
  | (k, v) :: rest =>
    .char ',' :: .char ' ' ::
      (writeText false k ++ (.char ':' :: .char ' ' :: (lineText v ++ moreFields rest)))

end

theorem block_line (depth : Nat) (left right : Text) (parts : List Text) :
    Style.line.block depth left right parts =
      left ++ ((Text.ofString ", ").intercalate parts ++ right) := by
  unfold Style.block Style.lineBreak Style.line
  cases parts with
  | nil => simp
  | cons part parts => simp [Text.ofString]

theorem intercalate_items {depth : Nat} {d : Doc} {rest : List Doc}
    (hd : ∀ x ∈ d :: rest, writeAt .line depth x = lineText x) :
    (Text.ofString ", ").intercalate (writeItems .line depth (d :: rest)) ++ [.char ']'] =
      lineText d ++ moreItems rest := by
  induction rest generalizing d with
  | nil => simp [writeItems, moreItems, hd]
  | cons e rest ih =>
    have ih := ih fun x hx => hd x (List.mem_cons_of_mem d hx)
    rw [writeItems, List.intercalate_cons_of_ne_nil (by simp [writeItems]), hd d List.mem_cons_self,
      List.append_assoc, List.append_assoc, ih, moreItems]
    rfl

theorem intercalate_fields {depth : Nat} {k : Text} {v : Doc} {rest : List (Text × Doc)}
    (hv : ∀ f ∈ (k, v) :: rest, writeAt .line depth f.2 = lineText f.2) :
    (Text.ofString ", ").intercalate (writeFields .line depth ((k, v) :: rest)) ++ [.char '\x7d'] =
      lineFields ((k, v) :: rest) := by
  have hcolon : Text.ofString ": " = [.char ':', .char ' '] := rfl
  have hascii : Style.line.ascii = false := rfl
  induction rest generalizing k v with
  | nil =>
    have hv : writeAt .line depth v = lineText v := hv (k, v) List.mem_cons_self
    simp [writeFields, lineFields, moreFields, hv, hascii, hcolon]
  | cons f rest ih =>
    obtain ⟨k', v'⟩ := f
    have ih := ih fun f hf => hv f (List.mem_cons_of_mem _ hf)
    have hv : writeAt .line depth v = lineText v := hv (k, v) List.mem_cons_self
    rw [writeFields, List.intercalate_cons_of_ne_nil (by simp [writeFields]), List.append_assoc,
      List.append_assoc, ih]
    simp [lineFields, moreFields, hv, hascii, Text.ofString]

theorem writeAt_line (d : Doc) (depth : Nat) : writeAt .line depth d = lineText d := by
  induction d using Doc.nested generalizing depth with
  | list items ih =>
    rw [writeAt, block_line, lineText]
    cases items with
    | nil => rfl
    | cons d rest =>
      have hitems := intercalate_items fun x hx => ih x hx (depth + 1)
      rw [lineItems, ← hitems]
      rfl
  | record fields ih =>
    rw [writeAt, block_line, lineText]
    cases fields with
    | nil => rfl
    | cons f rest =>
      have hfields := intercalate_fields fun x hx => ih x hx (depth + 1)
      rw [← hfields]
      rfl
  | _ => rfl

/-! ## Numbers and words -/

/-- What stands at the head of a value that is neither a text, a list nor a record. -/
theorem readValue_atom {dialect : Dialect} {g : Glyph} (hquote : g ≠ .char '"')
    (hbrace : g ≠ .char '\x7b') (hbracket : g ≠ .char '[') (fuel depth p : Nat) (rest : Text) :
    readValue dialect (fuel + 1) depth ⟨p, g :: rest⟩ =
      match readWord? ⟨p, g :: rest⟩ with
      | some r => .ok r
      | none => readNumber dialect ⟨p, g :: rest⟩ := by
  rw [readValue.eq_def]
  dsimp only
  split
  next heq => cases heq
  next heq =>
    cases heq
    contradiction
  next heq =>
    cases heq
    contradiction
  next heq =>
    cases heq
    contradiction
  next => rfl

theorem spelling_head {s : Spelling} (hs : s.WellFormed) :
    ∃ g d rest, s.text = g :: rest ∧ (g = .char '-' ∧ rest.head? = some d ∨ g = d) ∧
      isDigit d = true := by
  obtain ⟨d, ds, hwhole⟩ := List.exists_cons_of_ne_nil hs.whole_ne
  have hd : isDigit d = true := hs.whole_digits d (by rw [hwhole]; exact List.mem_cons_self)
  unfold Spelling.text
  cases s.negative with
  | true => exact ⟨.char '-', d, _, rfl, .inl ⟨rfl, by simp [hwhole]⟩, hd⟩
  | false => exact ⟨d, d, _, by simp [hwhole]; rfl, .inr rfl, hd⟩

theorem readWord?_spelling {s : Spelling} (hs : s.WellFormed) (p : Nat) (tail : Text) :
    readWord? ⟨p, s.text ++ tail⟩ = none := by
  obtain ⟨g, d, rest, htext, hhead, hd⟩ := spelling_head hs
  have hne : ∀ c : Char, c.isDigit = false → ¬ .char c = d := by
    rintro c hc rfl
    rw [isDigit_char, hc] at hd
    cases hd
  rw [htext]
  rcases hhead with ⟨rfl, hrest⟩ | rfl
  · obtain ⟨rest, rfl⟩ : ∃ r, rest = d :: r := by
      cases rest with
      | nil => cases hrest
      | cons x xs =>
        cases hrest
        exact ⟨xs, rfl⟩
    simp [readWord?, words, Text.ofString, hne]
  · simp [readWord?, words, Text.ofString, hne]

/-- A spelling is read as its value. -/
theorem readValue_spelling {s : Spelling} (hs : s.WellFormed) {d : Doc}
    (hvalue : nearestValue s.numeral = .ok d) {tail : Text} (htail : EndsNumber tail)
    (fuel depth p : Nat) :
    readValue standard (fuel + 1) depth ⟨p, s.text ++ tail⟩ =
      .ok (d, ⟨p + s.text.length, tail⟩) := by
  have hword := readWord?_spelling hs p tail
  have hnumber : readNumber standard ⟨p, s.text ++ tail⟩ = .ok (d, ⟨p + s.text.length, tail⟩) := by
    unfold readNumber
    rw [readNumeral_text hs htail, ok_bind]
    show nearestValue s.numeral >>= _ = _
    rw [hvalue]
    rfl
  obtain ⟨g, x, rest, htext, hhead, hx⟩ := spelling_head hs
  have hg : ∀ c : Char, c.isDigit = false → c ≠ '-' → g ≠ .char c := by
    rintro c hc hminus rfl
    rcases hhead with ⟨hg, -⟩ | rfl
    · exact hminus (by simpa using hg)
    · rw [isDigit_char, hc] at hx
      cases hx
  rw [htext, List.cons_append] at hword hnumber ⊢
  rw [readValue_atom (hg _ (by decide) (by decide)) (hg _ (by decide) (by decide))
    (hg _ (by decide) (by decide)), hword]
  exact hnumber

theorem readValue_word {w : Text × Doc} (hw : w ∈ words) (tail : Text) (fuel depth p : Nat) :
    readValue standard (fuel + 1) depth ⟨p, w.1 ++ tail⟩ = .ok (w.2, ⟨p + w.1.length, tail⟩) := by
  unfold words at hw
  simp only [List.mem_cons, List.not_mem_nil, or_false] at hw
  rcases hw with rfl | rfl | rfl | rfl | rfl | rfl <;> rfl

/-- A floating point number is written as a word or as a spelling that gives it. -/
theorem writeFloat_cases (x : Float) :
    (writeFloat x, Doc.real x) ∈ words ∨
      ∃ s : Spelling, s.WellFormed ∧ s.whole.length ≤ Number.numeralLimit ∧
        s.text = writeFloat x ∧ nearestValue s.numeral = .ok (.real x) := by
  unfold writeFloat
  by_cases hfinite : Number.isFinite x = true
  · right
    obtain ⟨b, hb⟩ := Option.isSome_iff_exists.1 hfinite
    rw [if_neg (ne_true_of_eq_false (Number.not_isNaN_of_isFinite hfinite)), if_pos hfinite]
    exact ⟨realSpelling b, realSpelling_wellFormed (Number.fits_of_ofFloat? hb),
      (realSpelling_whole_le b).trans (by decide), realSpelling_text hb, nearestValue_real hb⟩
  · left
    have hvalue := Number.eq_of_not_isFinite (Bool.eq_false_iff.2 hfinite)
    rw [if_neg hfinite]
    split at hvalue
    next hnan =>
      rw [if_pos hnan, hvalue]
      simp [words]
    next hnan =>
      rw [if_neg hnan]
      split at hvalue
      next hneg =>
        rw [if_pos hneg, hvalue]
        simp [words]
      next hneg =>
        rw [if_neg hneg, hvalue]
        simp [words]

/-! ## Lists and records -/

theorem skipSpace_of_not_space {g : Glyph} (hg : Cursor.isSpace g = false) (p : Nat) (rest : Text) :
    Cursor.skipSpace ⟨p, g :: rest⟩ = ⟨p, g :: rest⟩ := by
  simp [Cursor.skipSpace, Cursor.advance, hg]

theorem skipSpace_space {g : Glyph} (hg : Cursor.isSpace g = false) (p : Nat) (rest : Text) :
    Cursor.skipSpace ⟨p, .char ' ' :: g :: rest⟩ = ⟨p + 1, g :: rest⟩ := by
  have hspace : Cursor.isSpace (.char ' ') = true := by decide
  simp [Cursor.skipSpace, Cursor.advance, hg, hspace]

/-- A document begins with a glyph that is neither white space nor a closing bracket, and that is no
mark of the byte order. -/
theorem lineText_head (d : Doc) :
    ∃ g rest, lineText d = g :: rest ∧ Cursor.isSpace g = false ∧ g ≠ .char ']' ∧
      g ≠ .char '\ufeff' := by
  have hspelling : ∀ s : Spelling, s.WellFormed →
      ∃ g rest, s.text = g :: rest ∧ Cursor.isSpace g = false ∧ g ≠ .char ']' ∧
        g ≠ .char '\ufeff' := by
    intro s hs
    obtain ⟨g, x, rest, htext, hhead, hx⟩ := spelling_head hs
    refine ⟨g, rest, htext, ?_⟩
    rcases hhead with ⟨rfl, -⟩ | rfl
    · decide
    · have hne : ∀ c : Char, c.isDigit = false → g ≠ .char c := by
        rintro c hc rfl
        rw [isDigit_char, hc] at hx
        cases hx
      simp [Cursor.isSpace, hne]
  cases d with
  | null => exact ⟨_, _, rfl, by decide⟩
  | bool b => cases b <;> exact ⟨_, _, rfl, by decide⟩
  | int n =>
    rw [lineText, ← intSpelling_text]
    exact hspelling _ (intSpelling_wellFormed n)
  | real x =>
    rw [lineText]
    rcases writeFloat_cases x with hword | ⟨s, hs, -, htext, -⟩
    · simp only [words, List.mem_cons, Prod.mk.injEq, List.not_mem_nil, or_false] at hword
      rcases hword with h | h | h | h | h | h <;> rw [h.1] <;> exact ⟨_, _, rfl, by decide⟩
    · rw [← htext]
      exact hspelling s hs
  | text s => exact ⟨_, _, rfl, by decide⟩
  | list items => exact ⟨_, _, rfl, by decide⟩
  | record fields => exact ⟨_, _, rfl, by decide⟩

theorem skipSpace_lineText (d : Doc) (after : Text) (p : Nat) :
    Cursor.skipSpace ⟨p, lineText d ++ after⟩ = ⟨p, lineText d ++ after⟩ ∧
      Cursor.skipSpace ⟨p, .char ' ' :: (lineText d ++ after)⟩ = ⟨p + 1, lineText d ++ after⟩ := by
  obtain ⟨g, rest, htext, hspace, -⟩ := lineText_head d
  rw [htext, List.cons_append]
  exact ⟨skipSpace_of_not_space hspace p _, skipSpace_space hspace p _⟩

/-- Is a document read back, wherever it stands? -/
def ReadBack (d : Doc) : Prop :=
  ∀ fuel depth p tail, (lineText d).length < fuel → d.depth ≤ depth → EndsNumber tail →
    readValue standard fuel depth ⟨p, lineText d ++ tail⟩ =
      .ok (d.merged, ⟨p + (lineText d).length, tail⟩)

theorem endsNumber_moreItems (rest : List Doc) (tail : Text) : EndsNumber (moreItems rest ++ tail) := by
  intro g hg
  cases rest <;> simp only [moreItems, List.cons_append, List.head?_cons, Option.mem_some_iff] at hg <;>
    subst hg <;> decide

theorem endsNumber_moreFields (rest : List (Text × Doc)) (tail : Text) :
    EndsNumber (moreFields rest ++ tail) := by
  intro g hg
  cases rest <;> simp only [moreFields, List.cons_append, List.head?_cons, Option.mem_some_iff] at hg <;>
    subst hg <;> decide

theorem readItems_line {d : Doc} {rest : List Doc} (hread : ∀ x ∈ d :: rest, ReadBack x)
    {depth : Nat} (hdepth : ∀ x ∈ d :: rest, x.depth ≤ depth) (tail : Text) (acc : List Doc)
    (fuel p : Nat) (hfuel : (lineText d ++ moreItems rest).length < fuel) :
    readItems standard fuel depth acc ⟨p, lineText d ++ (moreItems rest ++ tail)⟩ =
      .ok (.list (acc.reverse ++ (d :: rest).map Doc.merged),
        ⟨p + (lineText d ++ moreItems rest).length, tail⟩) := by
  induction rest generalizing d acc fuel p with
  | nil =>
    cases fuel with
    | zero => omega
    | succ fuel =>
      have hd := hread d List.mem_cons_self fuel depth p (moreItems [] ++ tail)
        (by simp [moreItems] at hfuel; omega) (hdepth d List.mem_cons_self)
        (endsNumber_moreItems [] tail)
      rw [readItems, hd, ok_bind]
      simp only [moreItems, List.cons_append, List.nil_append]
      rw [skipSpace_of_not_space (by decide)]
      simp [Cursor.advance, Nat.add_assoc]
  | cons e rest ih =>
    cases fuel with
    | zero => omega
    | succ fuel =>
      simp only [moreItems, List.length_append, List.length_cons] at hfuel
      have hd := hread d List.mem_cons_self fuel depth p (moreItems (e :: rest) ++ tail)
        (by omega) (hdepth d List.mem_cons_self) (endsNumber_moreItems _ tail)
      have hrest := ih (fun x hx => hread x (List.mem_cons_of_mem d hx))
        (fun x hx => hdepth x (List.mem_cons_of_mem d hx)) (d.merged :: acc) fuel
        (p + (lineText d).length + 2) (by simp only [List.length_append]; omega)
      rw [readItems, hd, ok_bind]
      simp only [moreItems, List.cons_append, List.append_assoc]
      rw [skipSpace_of_not_space (by decide)]
      simp only [Cursor.advance, List.drop_one, List.tail_cons]
      rw [(skipSpace_lineText e _ _).2, hrest]
      simp only [List.reverse_cons, List.append_assoc, List.cons_append, List.nil_append,
        List.map_cons, List.length_append, List.length_cons]
      congr 3
      omega

/-- A field is read up to its value, and then the value and what stands behind it. -/
theorem readFields_step {k behind : Text} {p : Nat} {c : Cursor}
    (hskip : Cursor.skipSpace ⟨p + (writeText false k).length + 1, behind⟩ = c) (depth : Nat)
    (acc : List (Text × Doc)) (fuel : Nat) :
    readFields standard (fuel + 1) depth acc ⟨p, writeText false k ++ (.char ':' :: behind)⟩ = (do
      let (value, after) ← readValue standard fuel depth c
      let next := after.skipSpace
      match next.rest with
      | .char '\x7d' :: _ => .ok (.record (Doc.put acc k value), next.advance 1)
      | .char ',' :: _ =>
        readFields standard fuel depth (Doc.put acc k value) (next.advance 1).skipSpace
      | _ => next.fail .comma) := by
  have hkey := readText_writeText k (.char ':' :: behind) p
  obtain ⟨rest, hquote⟩ : ∃ rest, writeText false k ++ (.char ':' :: behind) = .char '"' :: rest :=
    ⟨_, rfl⟩
  rw [hquote] at hkey ⊢
  rw [readFields]
  dsimp only
  rw [hkey, ok_bind]
  dsimp only
  rw [skipSpace_of_not_space (by decide)]
  simp only [Cursor.advance, List.drop_one, List.tail_cons]
  exact hskip ▸ rfl

theorem readFields_line {k : Text} {v : Doc} {rest : List (Text × Doc)}
    (hread : ∀ f ∈ (k, v) :: rest, ReadBack f.2)
    {depth : Nat} (hdepth : ∀ f ∈ (k, v) :: rest, f.2.depth ≤ depth) (tail : Text)
    (acc : List (Text × Doc)) (fuel p : Nat)
    (hfuel : (lineFields ((k, v) :: rest)).length < fuel) :
    readFields standard fuel depth acc ⟨p, lineFields ((k, v) :: rest) ++ tail⟩ =
      .ok (.record (Doc.mergedFields acc ((k, v) :: rest)),
        ⟨p + (lineFields ((k, v) :: rest)).length, tail⟩) := by
  induction rest generalizing k v acc fuel p with
  | nil =>
    cases fuel with
    | zero => omega
    | succ fuel =>
      simp only [lineFields, moreFields, List.length_append, List.length_cons, List.length_nil] at hfuel
      have hv := hread (k, v) List.mem_cons_self fuel depth (p + (writeText false k).length + 2)
        (moreFields [] ++ tail) (by dsimp only; omega) (hdepth _ List.mem_cons_self)
        (endsNumber_moreFields [] tail)
      simp only [lineFields, List.append_assoc, List.cons_append]
      rw [readFields_step (skipSpace_lineText v _ _).2, hv, ok_bind]
      simp only [moreFields, List.cons_append, List.nil_append]
      rw [skipSpace_of_not_space (by decide)]
      simp only [Cursor.advance, List.drop_one, List.tail_cons, Doc.mergedFields, List.length_append,
        List.length_cons, List.length_nil]
      congr 3
      omega
  | cons f rest ih =>
    obtain ⟨k', v'⟩ := f
    cases fuel with
    | zero => omega
    | succ fuel =>
      simp only [lineFields, moreFields, List.length_append, List.length_cons] at hfuel
      have hv := hread (k, v) List.mem_cons_self fuel depth (p + (writeText false k).length + 2)
        (moreFields ((k', v') :: rest) ++ tail) (by dsimp only; omega) (hdepth _ List.mem_cons_self)
        (endsNumber_moreFields _ tail)
      have hrest := ih (fun x hx => hread x (List.mem_cons_of_mem _ hx))
        (fun x hx => hdepth x (List.mem_cons_of_mem _ hx)) (Doc.put acc k v.merged) fuel
        (p + (writeText false k).length + 2 + (lineText v).length + 2)
        (by simp only [lineFields, List.length_append, List.length_cons]; omega)
      simp only [lineFields, List.append_assoc, List.cons_append] at hrest ⊢
      rw [readFields_step (skipSpace_lineText v _ _).2, hv, ok_bind]
      simp only [moreFields, List.append_assoc, List.cons_append]
      rw [skipSpace_of_not_space (by decide)]
      simp only [Cursor.advance, List.drop_one, List.tail_cons]
      have hspace : Cursor.skipSpace ⟨p + (writeText false k).length + 2 + (lineText v).length + 1,
          .char ' ' :: (writeText false k' ++
            (.char ':' :: .char ' ' :: (lineText v' ++ (moreFields rest ++ tail))))⟩ =
          ⟨p + (writeText false k).length + 2 + (lineText v).length + 2,
            writeText false k' ++
              (.char ':' :: .char ' ' :: (lineText v' ++ (moreFields rest ++ tail)))⟩ :=
        skipSpace_space (by decide) _ _
      rw [hspace, hrest]
      simp only [Doc.mergedFields, List.length_append, List.length_cons]
      congr 3
      omega

theorem readBack_word {d : Doc} (hd : (lineText d, d.merged) ∈ words) : ReadBack d := by
  intro fuel depth p tail hfuel hdepth htail
  obtain ⟨fuel, rfl⟩ : ∃ n, fuel = n + 1 := ⟨fuel - 1, by omega⟩
  exact readValue_word hd tail fuel depth p

theorem readBack_spelling {d : Doc} {s : Spelling} (hs : s.WellFormed) (htext : s.text = lineText d)
    (hvalue : nearestValue s.numeral = .ok d.merged) : ReadBack d := by
  intro fuel depth p tail hfuel hdepth htail
  obtain ⟨fuel, rfl⟩ : ∃ n, fuel = n + 1 := ⟨fuel - 1, by omega⟩
  rw [← htext]
  exact readValue_spelling hs hvalue htail fuel depth p

theorem readBack_list {items : List Doc} (hitems : ∀ d ∈ items, ReadBack d) :
    ReadBack (.list items) := by
  intro fuel depth p tail hfuel hdepth htail
  obtain ⟨fuel, rfl⟩ : ∃ n, fuel = n + 1 := ⟨fuel - 1, by omega⟩
  obtain ⟨depth, rfl⟩ : ∃ n, depth = n + 1 := ⟨depth - 1, by simp only [Doc.depth] at hdepth; omega⟩
  simp only [Doc.depth, Nat.add_le_add_iff_right, Doc.itemsDepth_le_iff] at hdepth
  simp only [lineText, List.cons_append, Doc.merged, Doc.mergedItems_eq] at hfuel ⊢
  rw [readValue]
  simp only [Cursor.advance, List.drop_one, List.tail_cons]
  cases items with
  | nil =>
    simp only [lineItems, List.cons_append, List.nil_append]
    rw [skipSpace_of_not_space (by decide)]
    rfl
  | cons d rest =>
    obtain ⟨g, after, htext, -, hclose, -⟩ := lineText_head d
    have hread := readItems_line hitems hdepth tail [] fuel (p + 1)
      (by simp only [lineItems, List.length_cons] at hfuel; omega)
    simp only [lineItems, List.append_assoc]
    rw [(skipSpace_lineText d _ _).1]
    split
    next heq =>
      rw [htext] at heq
      cases heq
      contradiction
    next =>
      rw [hread]
      simp only [List.reverse_nil, List.nil_append, List.length_cons]
      congr 3
      omega

theorem readBack_record {fields : List (Text × Doc)} (hfields : ∀ f ∈ fields, ReadBack f.2) :
    ReadBack (.record fields) := by
  intro fuel depth p tail hfuel hdepth htail
  obtain ⟨fuel, rfl⟩ : ∃ n, fuel = n + 1 := ⟨fuel - 1, by omega⟩
  obtain ⟨depth, rfl⟩ : ∃ n, depth = n + 1 := ⟨depth - 1, by simp only [Doc.depth] at hdepth; omega⟩
  simp only [Doc.depth, Nat.add_le_add_iff_right, Doc.fieldsDepth_le_iff] at hdepth
  simp only [lineText, List.cons_append, Doc.merged] at hfuel ⊢
  rw [readValue]
  simp only [Cursor.advance, List.drop_one, List.tail_cons]
  cases fields with
  | nil =>
    simp only [lineFields, List.cons_append, List.nil_append]
    rw [skipSpace_of_not_space (by decide)]
    rfl
  | cons f rest =>
    obtain ⟨k, v⟩ := f
    have hread := readFields_line hfields hdepth tail [] fuel (p + 1)
      (by simp only [List.length_cons] at hfuel; omega)
    have hspace : Cursor.skipSpace ⟨p + 1, lineFields ((k, v) :: rest) ++ tail⟩ =
        ⟨p + 1, lineFields ((k, v) :: rest) ++ tail⟩ := skipSpace_of_not_space (by decide) _ _
    rw [hspace, hread]
    split
    next heq => cases heq
    next =>
      simp only [List.length_cons]
      congr 3
      omega

/-- A document on one line is read back, up to repeated keys. -/
theorem readValue_lineText {d : Doc} (hshort : d.Short) : ReadBack d := by
  induction d using Doc.nested with
  | null => exact readBack_word (by simp [words, lineText, Doc.merged])
  | bool b => cases b <;> exact readBack_word (by simp [words, lineText, Doc.merged])
  | int n =>
    have htext : (intSpelling n).text = lineText (.int n) := intSpelling_text n
    exact readBack_spelling (intSpelling_wellFormed n) htext (nearestValue_int hshort)
  | real x =>
    rcases writeFloat_cases x with hword | ⟨s, hs, -, htext, hvalue⟩
    · exact readBack_word hword
    · exact readBack_spelling hs htext hvalue
  | text s =>
    intro fuel depth p tail hfuel hdepth htail
    obtain ⟨fuel, rfl⟩ : ∃ n, fuel = n + 1 := ⟨fuel - 1, by omega⟩
    have htext := readText_writeText s tail p
    obtain ⟨rest, hquote⟩ : ∃ rest, writeText false s ++ tail = .char '"' :: rest := ⟨_, rfl⟩
    rw [lineText]
    rw [hquote] at htext ⊢
    rw [readValue.eq_def]
    simp only [htext]
    rfl
  | list items ih => exact readBack_list fun d hd => ih d hd (Doc.short_list.1 hshort d hd)
  | record fields ih => exact readBack_record fun f hf => ih f hf (Doc.short_record.1 hshort f hf)

theorem readAll_of_not_mark {dialect : Dialect} {g : Glyph} (hg : g ≠ .char '\ufeff') (rest : Text) :
    readAll dialect (g :: rest) = (do
      let (doc, after) ← readValue dialect (2 * (g :: rest).length + 2) depthLimit
        (Cursor.skipSpace ⟨0, g :: rest⟩)
      let final := after.skipSpace
      if final.rest.isEmpty then .ok doc else .error (.syntactic .extra final.position)) := by
  unfold readAll
  split
  next heq =>
    cases heq
    contradiction
  next => rfl

theorem skipSpace_spaces {s : Text} (hs : ∀ g ∈ s, Cursor.isSpace g = true) (p : Nat) :
    (Cursor.skipSpace ⟨p, s⟩).rest = [] := by
  have hall : s.takeWhile Cursor.isSpace = s := List.takeWhile_eq_self_iff.2 hs
  show s.drop (s.takeWhile Cursor.isSpace).length = []
  rw [hall, List.drop_length]

theorem endsNumber_spaces {s : Text} (hs : ∀ g ∈ s, Cursor.isSpace g = true) : EndsNumber s := by
  intro g hg
  have hg := hs g (List.mem_of_mem_head? hg)
  simp only [Cursor.isSpace, Bool.or_eq_true, decide_eq_true_eq] at hg
  rcases hg with ((rfl | rfl) | rfl) | rfl <;> decide

/-- A document written on one line is read back, up to repeated keys, also with white space behind
it. -/
theorem read_write_spaces {d : Doc} (hshort : d.Short) (hdepth : d.depth ≤ depthLimit) {s : Text}
    (hs : ∀ g ∈ s, Cursor.isSpace g = true) : read (write .line d ++ s) = .ok d.merged := by
  obtain ⟨g, rest, htext, hspace, -, hmark⟩ := lineText_head d
  have hread := readValue_lineText hshort (2 * (lineText d ++ s).length + 2) depthLimit 0 s
    (by rw [List.length_append]; omega) hdepth (endsNumber_spaces hs)
  have hskip := (skipSpace_lineText d s 0).1
  have hall : readAll standard (lineText d ++ s) = .ok d.merged := by
    rw [htext, List.cons_append, readAll_of_not_mark hmark, ← List.cons_append, ← htext, hskip, hread,
      ok_bind]
    dsimp only
    rw [skipSpace_spaces hs]
    rfl
  have hwrite : write .line d = lineText d := writeAt_line d 0
  rw [hwrite]
  unfold read readWith
  rw [hall]
  rfl

theorem read_write_line {d : Doc} (hshort : d.Short) (hdepth : d.depth ≤ depthLimit) :
    read (write .line d) = .ok d.merged := by
  have h := read_write_spaces hshort hdepth (s := []) (by simp)
  rwa [List.append_nil] at h

end QueryBench.Json
