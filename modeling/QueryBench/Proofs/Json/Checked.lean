import QueryBench.Proofs.Json.Torn

/-!
# What is written

A document that is written without a fault has only short numbers, and its pieces one behind the
other are its text. On one line there is no control character, so a written document never breaks
its line.

Main statements: `writeChecked_eq_ok`, `writeChecked_of_short` and `printed_lineText`.
-/
set_option autoImplicit false

namespace QueryBench.Json

/-! ## Pieces -/

theorem mapM_id_eq_ok {parts : List (Except Fault Text)} {texts : List Text}
    (h : parts.mapM id = .ok texts) : parts = texts.map .ok := by
  have hparts := mapM_eq_ok_iff.1 h
  clear h
  induction hparts with
  | nil => rfl
  | cons hpart _ ih => rw [List.map_cons, ← ih, ← hpart, id_eq]

/-- Do the pieces of a document make its text, and is there one for each of its numbers? -/
def Pieced (style : Style) (depth : Nat) (d : Doc) : Prop :=
  ∀ (lead : Text) (texts : List Text), piecesAt style depth lead d = texts.map .ok →
    d.Short ∧ texts.flatten = lead ++ writeAt style depth d

section
variable {style : Style} {depth : Nat}

theorem itemPieces_eq {d : Doc} {rest : List Doc} (hitems : ∀ x ∈ d :: rest, Pieced style depth x)
    {lead : Text} {texts : List Text}
    (h : itemPieces style depth lead (d :: rest) = texts.map .ok) :
    (∀ x ∈ d :: rest, x.Short) ∧
      texts.flatten =
        lead ++ (style.between depth).intercalate (writeItems style depth (d :: rest)) := by
  induction rest generalizing d lead texts with
  | nil =>
    rw [itemPieces, itemPieces, List.append_nil] at h
    obtain ⟨hshort, hflat⟩ := hitems d List.mem_cons_self lead texts h
    exact ⟨by simpa using hshort, by simpa [writeItems] using hflat⟩
  | cons e rest ih =>
    rw [itemPieces] at h
    obtain ⟨first, others, rfl, hfirst, hothers⟩ := List.append_eq_map_iff.1 h
    obtain ⟨hshort, hflat⟩ := hitems d List.mem_cons_self lead first hfirst.symm
    obtain ⟨hshorts, hflats⟩ := ih (fun x hx => hitems x (List.mem_cons_of_mem d hx)) hothers.symm
    refine ⟨List.forall_mem_cons.2 ⟨hshort, hshorts⟩, ?_⟩
    have hwrite : writeItems style depth (d :: e :: rest) =
        writeAt style depth d :: writeItems style depth (e :: rest) := rfl
    rw [List.flatten_append, hflat, hflats, hwrite,
      List.intercalate_cons_of_ne_nil (by simp [writeItems])]
    simp only [List.append_assoc]

theorem fieldPieces_first {k : Text} {v : Doc} (hv : Pieced style depth v) {lead : Text}
    {texts : List Text}
    (h : .ok lead :: .ok (writeText style.ascii k) :: .ok ": " :: piecesAt style depth "" v =
      texts.map .ok) :
    v.Short ∧ texts.flatten = lead ++ (writeText style.ascii k ++ ": " ++ writeAt style depth v) := by
  obtain ⟨_, texts, rfl, hlead, h⟩ := List.map_eq_cons_iff.1 h.symm
  obtain ⟨_, texts, rfl, hkey, h⟩ := List.map_eq_cons_iff.1 h
  obtain ⟨_, texts, rfl, hcolon, h⟩ := List.map_eq_cons_iff.1 h
  obtain ⟨hshort, hflat⟩ := hv _ texts h.symm
  cases hlead
  cases hkey
  cases hcolon
  refine ⟨hshort, ?_⟩
  simp only [List.flatten_cons, hflat, List.append_assoc]
  rfl

theorem fieldPieces_eq {f : Text × Doc} {rest : List (Text × Doc)}
    (hfields : ∀ x ∈ f :: rest, Pieced style depth x.2) {lead : Text} {texts : List Text}
    (h : fieldPieces style depth lead (f :: rest) = texts.map .ok) :
    (∀ x ∈ f :: rest, x.2.Short) ∧
      texts.flatten =
        lead ++ (style.between depth).intercalate (writeFields style depth (f :: rest)) := by
  induction rest generalizing f lead texts with
  | nil =>
    simp only [fieldPieces, List.append_nil] at h
    obtain ⟨hshort, hflat⟩ := fieldPieces_first (hfields f List.mem_cons_self) h
    exact ⟨by simpa using hshort, by simpa [writeFields] using hflat⟩
  | cons e rest ih =>
    rw [fieldPieces] at h
    obtain ⟨first, others, rfl, hfirst, hothers⟩ := List.append_eq_map_iff.1 h
    obtain ⟨hshort, hflat⟩ := fieldPieces_first (hfields f List.mem_cons_self) hfirst.symm
    obtain ⟨hshorts, hflats⟩ := ih (fun x hx => hfields x (List.mem_cons_of_mem f hx)) hothers.symm
    refine ⟨List.forall_mem_cons.2 ⟨hshort, hshorts⟩, ?_⟩
    have hwrite : writeFields style depth (f :: e :: rest) =
        (writeText style.ascii f.1 ++ ": " ++ writeAt style depth f.2) ::
          writeFields style depth (e :: rest) := rfl
    rw [List.flatten_append, hflat, hflats, hwrite,
      List.intercalate_cons_of_ne_nil (by simp [writeFields])]
    simp only [List.append_assoc]

end

theorem enclosed_pieces {lead last : Text} {inner : List (Except Fault Text)} {texts : List Text}
    (h : .ok lead :: inner ++ [.ok last] = texts.map .ok) :
    ∃ inside : List Text, inner = inside.map .ok ∧ texts.flatten = lead ++ (inside.flatten ++ last) := by
  rw [List.cons_append] at h
  obtain ⟨_, texts, rfl, hlead, h⟩ := List.map_eq_cons_iff.1 h.symm
  obtain ⟨inside, ending, rfl, hinside, hending⟩ := List.append_eq_map_iff.1 h.symm
  obtain ⟨_, _, rfl, hlast, hnil⟩ := List.map_eq_cons_iff.1 hending
  obtain rfl := List.map_eq_nil_iff.1 hnil
  cases hlead
  cases hlast
  exact ⟨inside, hinside.symm, by simp⟩

theorem block_eq {style : Style} {depth : Nat} {left right : Text} {parts : List Text}
    (hparts : parts ≠ []) :
    style.block depth left right parts =
      left ++ style.lineBreak (depth + 1) ++ (style.between (depth + 1)).intercalate parts ++
        (style.lineBreak depth ++ right) := by
  simp [Style.block, Style.between, hparts]

theorem pieced (style : Style) (d : Doc) (depth : Nat) : Pieced style depth d := by
  induction d using Doc.nested generalizing depth with
  | list items ih =>
    intro lead texts h
    cases items with
    | nil =>
      obtain ⟨s, _, rfl, hs, hnil⟩ := List.map_eq_cons_iff.1 h.symm
      obtain rfl := List.map_eq_nil_iff.1 hnil
      cases hs
      exact ⟨Doc.short_list.2 (by simp), by simp⟩
    | cons d rest =>
      rw [piecesAt] at h
      obtain ⟨inside, hinside, hflat⟩ := enclosed_pieces h
      obtain ⟨hshort, htext⟩ := itemPieces_eq (fun x hx => ih x hx (depth + 1)) hinside
      refine ⟨Doc.short_list.2 hshort, ?_⟩
      rw [hflat, htext, writeAt, block_eq (by simp [writeItems])]
  | record fields ih =>
    intro lead texts h
    cases fields with
    | nil =>
      obtain ⟨s, _, rfl, hs, hnil⟩ := List.map_eq_cons_iff.1 h.symm
      obtain rfl := List.map_eq_nil_iff.1 hnil
      cases hs
      exact ⟨Doc.short_record.2 (by simp), by simp⟩
    | cons f rest =>
      rw [piecesAt] at h
      obtain ⟨inside, hinside, hflat⟩ := enclosed_pieces h
      obtain ⟨hshort, htext⟩ := fieldPieces_eq (fun x hx => ih x hx (depth + 1)) hinside
      refine ⟨Doc.short_record.2 hshort, ?_⟩
      rw [hflat, htext, writeAt, block_eq (by simp [writeFields])]
  | int n =>
    intro lead texts h
    rw [piecesAt] at h
    obtain ⟨s, _, rfl, hs, hnil⟩ := List.map_eq_cons_iff.1 h.symm
    obtain rfl := List.map_eq_nil_iff.1 hnil
    unfold numberText at hs
    split at hs
    next => cases hs
    next hn =>
      cases hs
      refine ⟨?_, by simp [writeAt]⟩
      rw [Doc.Short]
      generalize Number.numeralLimit = limit at hn ⊢
      exact Nat.lt_of_not_le hn
  | _ =>
    intro lead texts h
    obtain ⟨s, _, rfl, hs, hnil⟩ := List.map_eq_cons_iff.1 h.symm
    obtain rfl := List.map_eq_nil_iff.1 hnil
    cases hs
    exact ⟨trivial, by simp⟩

/-- A document written without a fault has only short numbers. -/
theorem writeChecked_eq_ok {style : Style} {d : Doc} {s : Text} (h : writeChecked style d = .ok s) :
    d.Short ∧ s = write style d := by
  obtain ⟨texts, htexts, h⟩ := ok_of_bind h
  obtain rfl : texts.flatten = s := Except.ok.inj h
  exact pieced style d 0 [] texts (mapM_id_eq_ok htexts)

/-- A document whose numbers are short is written without a fault. -/
theorem ok_of_mem_piecesAt {style : Style} {d : Doc} (h : d.Short) (depth : Nat) (lead : Text) :
    ∀ piece ∈ piecesAt style depth lead d, ∃ s, piece = .ok s := by
  induction d using Doc.nested generalizing depth lead with
  | list items ih =>
    have hitems (items' : List Doc) (hmem : items' ⊆ items) (lead : Text) :
        ∀ piece ∈ itemPieces style (depth + 1) lead items', ∃ s, piece = .ok s := by
      induction items' generalizing lead with
      | nil => simp [itemPieces]
      | cons d rest ihrest =>
        have hd := hmem List.mem_cons_self
        rw [itemPieces, List.forall_mem_append]
        exact ⟨ih d hd (Doc.short_list.1 h d hd) _ _,
          ihrest (fun x hx => hmem (List.mem_cons_of_mem d hx)) _⟩
    cases items with
    | nil => simp [piecesAt]
    | cons d rest =>
      rw [piecesAt, List.forall_mem_append, List.forall_mem_cons]
      exact ⟨⟨⟨_, rfl⟩, hitems _ (List.Subset.refl _) _⟩, by simp⟩
  | record fields ih =>
    have hfields (fields' : List (Text × Doc)) (hmem : fields' ⊆ fields) (lead : Text) :
        ∀ piece ∈ fieldPieces style (depth + 1) lead fields', ∃ s, piece = .ok s := by
      induction fields' generalizing lead with
      | nil => simp [fieldPieces]
      | cons f rest ihrest =>
        have hf := hmem List.mem_cons_self
        rw [fieldPieces, List.forall_mem_append, List.forall_mem_cons, List.forall_mem_cons,
          List.forall_mem_cons]
        exact ⟨⟨⟨_, rfl⟩, ⟨_, rfl⟩, ⟨_, rfl⟩, ih f hf (Doc.short_record.1 h f hf) _ _⟩,
          ihrest (fun x hx => hmem (List.mem_cons_of_mem f hx)) _⟩
    cases fields with
    | nil => simp [piecesAt]
    | cons f rest =>
      rw [piecesAt, List.forall_mem_append, List.forall_mem_cons]
      exact ⟨⟨⟨_, rfl⟩, hfields _ (List.Subset.refl _) _⟩, by simp⟩
  | int n =>
    have hn : ¬ Nat.pow 10 Number.numeralLimit ≤ n.natAbs := by
      rw [Doc.Short] at h
      generalize Number.numeralLimit = limit at h ⊢
      exact Nat.not_le_of_lt h
    rw [piecesAt, numberText, if_neg hn]
    simp
  | _ => simp [piecesAt]

theorem writeChecked_of_short {d : Doc} (h : d.Short) (style : Style) :
    writeChecked style d = .ok (write style d) := by
  obtain ⟨texts, htexts⟩ : ∃ texts, (pieces style d).mapM id = .ok texts := by
    have hpieces : ∀ piece ∈ pieces style d, ∃ s, piece = .ok s := ok_of_mem_piecesAt h 0 []
    generalize pieces style d = parts at hpieces
    induction parts with
    | nil => exact ⟨[], rfl⟩
    | cons part rest ih =>
      obtain ⟨⟨s, rfl⟩, hrest⟩ := List.forall_mem_cons.1 hpieces
      obtain ⟨texts, htexts⟩ := ih hrest
      refine ⟨s :: texts, ?_⟩
      rw [List.mapM_cons, htexts]
      rfl
  have hwritten : writeChecked style d = .ok texts.flatten := by
    unfold writeChecked
    rw [htexts]
    rfl
  rw [hwritten, ← (writeChecked_eq_ok hwritten).2]

/-! ## One line -/

/-- Has a text no control characters? -/
def Printed (s : Text) : Prop :=
  ∀ g ∈ s, 0x20 ≤ g.code

theorem printed_cons {g : Glyph} {s : Text} : Printed (g :: s) ↔ 0x20 ≤ g.code ∧ Printed s :=
  List.forall_mem_cons

theorem printed_append {s t : Text} : Printed (s ++ t) ↔ Printed s ∧ Printed t :=
  List.forall_mem_append

theorem code_of_hexValue? {g : Glyph} {n : Nat} (h : hexValue? g = some n) : 0x20 ≤ g.code := by
  by_contra hg
  have h0 : '0'.toNat = 48 := rfl
  have ha : 'a'.toNat = 97 := rfl
  have hA : 'A'.toNat = 65 := rfl
  simp only [hexValue?, h0, ha, hA] at h
  rw [if_neg (by omega), if_neg (by omega), if_neg (by omega)] at h
  cases h

theorem code_of_escapeChar? {e g : Glyph} (h : escapeChar? e = some g) : 0x20 ≤ e.code := by
  unfold escapeChar? at h
  split at h
  case h_9 => cases h
  all_goals decide

theorem printed_writeGlyph (g : Glyph) : Printed (writeGlyph false g) := by
  have hslash : 0x20 ≤ (Glyph.char '\\').code := by decide
  rcases writeGlyph_cases g with ⟨e, hw, -, he⟩ | ⟨a, b, c, d, hw, hunit, -⟩ | ⟨hw, -, -, hcode⟩
  · have he := code_of_escapeChar? he
    simp [hw, Printed, hslash, he]
  · simp only [hexUnit?, Option.bind_eq_bind, Option.bind_eq_some_iff] at hunit
    obtain ⟨x, hx, y, hy, z, hz, w, hw', -⟩ := hunit
    have ha := code_of_hexValue? hx
    have hb := code_of_hexValue? hy
    have hc := code_of_hexValue? hz
    have hd := code_of_hexValue? hw'
    have hu : 0x20 ≤ (Glyph.char 'u').code := by decide
    simp [hw, Printed, hslash, hu, ha, hb, hc, hd]
  · have hcode := Nat.le_of_not_lt hcode
    simp [hw, Printed, hcode]

theorem printed_writeText (s : Text) : Printed (writeText false s) := by
  unfold writeText
  rw [List.cons_append, printed_cons, printed_append]
  refine ⟨by decide, ?_, by unfold Printed; decide⟩
  intro g hg
  obtain ⟨x, -, hx⟩ := List.mem_flatMap.1 hg
  exact printed_writeGlyph x g hx

theorem printed_of_inNumeral {s : Text} (hs : ∀ g ∈ s, inNumeral g = true) : Printed s := by
  intro g hg
  have hg := hs g hg
  simp only [inNumeral, isDigit, Bool.or_eq_true, Bool.and_eq_true, decide_eq_true_eq] at hg
  rcases hg with ((((⟨hlow, -⟩ | rfl) | rfl) | rfl) | rfl)
  · exact Nat.le_trans (by decide) hlow
  all_goals decide

theorem printed_word {w : Text × Doc} (hw : w ∈ words) : Printed w.1 := by
  have hwords : ∀ w ∈ words.map Prod.fst, ∀ g ∈ w, 0x20 ≤ g.code := by decide
  exact hwords w.1 (List.mem_map_of_mem hw)

theorem printed_lineItems {items : List Doc} (hitems : ∀ d ∈ items, Printed (lineText d)) :
    Printed (lineItems items) ∧ Printed (moreItems items) := by
  induction items with
  | nil => exact ⟨by unfold Printed; decide, by unfold Printed; decide⟩
  | cons d rest ih =>
    obtain ⟨hd, hrest⟩ := List.forall_mem_cons.1 hitems
    simp only [lineItems, moreItems, printed_cons, printed_append]
    exact ⟨⟨hd, (ih hrest).2⟩, by decide, by decide, hd, (ih hrest).2⟩

theorem printed_lineFields {fields : List (Text × Doc)}
    (hfields : ∀ f ∈ fields, Printed (lineText f.2)) :
    Printed (lineFields fields) ∧ Printed (moreFields fields) := by
  induction fields with
  | nil => exact ⟨by unfold Printed; decide, by unfold Printed; decide⟩
  | cons f rest ih =>
    obtain ⟨hv, hrest⟩ := List.forall_mem_cons.1 hfields
    simp only [lineFields, moreFields, printed_cons, printed_append]
    have hbehind := (ih hrest).2
    exact ⟨⟨printed_writeText f.1, by decide, by decide, hv, hbehind⟩,
      by decide, by decide, printed_writeText f.1, by decide, by decide, hv, hbehind⟩

/-- There is no control character in a document on one line. -/
theorem printed_lineText (d : Doc) : Printed (lineText d) := by
  induction d using Doc.nested with
  | null => exact printed_word (w := ("null", .null)) (by simp [words])
  | bool b =>
    cases b with
    | true => exact printed_word (w := ("true", .bool true)) (by simp [words])
    | false => exact printed_word (w := ("false", .bool false)) (by simp [words])
  | int n =>
    rw [lineText, ← intSpelling_text]
    exact printed_of_inNumeral fun g => inNumeral_of_mem_text (intSpelling_wellFormed n)
  | real x =>
    rw [lineText]
    rcases writeFloat_cases x with hword | ⟨s, hs, -, htext, -⟩
    · exact printed_word hword
    · rw [← htext]
      exact printed_of_inNumeral fun g => inNumeral_of_mem_text hs
  | text s => exact printed_writeText s
  | list items ih =>
    rw [lineText, printed_cons]
    exact ⟨by decide, (printed_lineItems ih).1⟩
  | record fields ih =>
    rw [lineText, printed_cons]
    exact ⟨by decide, (printed_lineFields ih).1⟩

theorem lineFields_concat (fields : List (Text × Doc)) :
    (∃ inner, lineFields fields = inner ++ [.char '\x7d']) ∧
      ∃ inner, moreFields fields = inner ++ [.char '\x7d'] := by
  induction fields with
  | nil => exact ⟨⟨[], rfl⟩, ⟨[], rfl⟩⟩
  | cons f rest ih =>
    obtain ⟨-, inner, hrest⟩ := ih
    constructor
    · exact ⟨writeText false f.1 ++ (.char ':' :: .char ' ' :: (lineText f.2 ++ inner)),
        by simp [lineFields, hrest]⟩
    · exact ⟨.char ',' :: .char ' ' ::
        (writeText false f.1 ++ (.char ':' :: .char ' ' :: (lineText f.2 ++ inner))),
        by simp [moreFields, hrest]⟩

/-- The text of a record begins and ends with a brace. -/
theorem write_record (fields : List (Text × Doc)) :
    ∃ inner, write .line (.record fields) = .char '\x7b' :: (inner ++ [.char '\x7d']) := by
  obtain ⟨inner, hinner⟩ := (lineFields_concat fields).1
  refine ⟨inner, ?_⟩
  rw [write, writeAt_line, lineText, hinner]

end QueryBench.Json
