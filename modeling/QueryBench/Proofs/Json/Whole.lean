import QueryBench.Proofs.Json.Checked
import QueryBench.Proofs.Text.Utf8

/-!
# Lines that can be encoded

A half of a surrogate pair is written as it is, and a line that holds one cannot be encoded. So a
line can be encoded exactly if no text or key of its document holds a half.

Main definition: `Doc.Whole`. Main statement: `whole_lineText`.
-/
set_option autoImplicit false

namespace QueryBench

open Text.Utf8 (Whole)

namespace Doc

mutual

/-- Is there no half of a surrogate pair in the texts and keys of a document? -/
def Whole : Doc → Prop
  | .text s => Text.Utf8.Whole s
  | .list items => WholeItems items
  | .record fields => WholeFields fields
  | _ => True

def WholeItems : List Doc → Prop
  | [] => True
  | d :: rest => Whole d ∧ WholeItems rest

def WholeFields : List (Text × Doc) → Prop
  | [] => True
  | (k, v) :: rest => Text.Utf8.Whole k ∧ Whole v ∧ WholeFields rest

end

theorem whole_list {items : List Doc} : Doc.Whole (.list items) ↔ ∀ d ∈ items, d.Whole := by
  rw [Doc.Whole]
  induction items with
  | nil => simp [WholeItems]
  | cons d rest ih => simp [WholeItems, ih]

theorem whole_record {fields : List (Text × Doc)} :
    Doc.Whole (.record fields) ↔ ∀ f ∈ fields, Text.Utf8.Whole f.1 ∧ f.2.Whole := by
  rw [Doc.Whole]
  induction fields with
  | nil => simp [WholeFields]
  | cons f rest ih => simp [WholeFields, ih, and_assoc]

end Doc

namespace Json

@[simp] theorem half?_char (c : Char) : (Glyph.char c).half? = none := rfl

theorem whole_cons {g : Glyph} {s : Text} : Whole (g :: s) ↔ g.half? = none ∧ Whole s :=
  List.forall_mem_cons

theorem whole_append {s t : Text} : Whole (s ++ t) ↔ Whole s ∧ Whole t :=
  List.forall_mem_append

theorem half?_of_code {g : Glyph} (h : g.code < 0xD800) : g.half? = none := by
  cases g with
  | char c => rfl
  | half n =>
    rw [Glyph.code] at h
    omega

theorem whole_of_inNumeral {s : Text} (hs : ∀ g ∈ s, inNumeral g = true) : Whole s := by
  intro g hg
  have hg := hs g hg
  simp only [inNumeral, isDigit, Bool.or_eq_true, Bool.and_eq_true, decide_eq_true_eq] at hg
  rcases hg with ((((⟨-, hhigh⟩ | rfl) | rfl) | rfl) | rfl)
  · exact half?_of_code (Nat.lt_of_le_of_lt hhigh (by decide))
  all_goals rfl

theorem whole_word {w : Text × Doc} (hw : w ∈ words) : Whole w.1 := by
  have hwords : ∀ w ∈ words.map Prod.fst, ∀ g ∈ w, g.half? = none := by decide
  exact hwords w.1 (List.mem_map_of_mem hw)

theorem half?_of_hexValue? {g : Glyph} {n : Nat} (h : hexValue? g = some n) : g.half? = none := by
  cases g with
  | char c => rfl
  | half m =>
    have h0 : '0'.toNat = 48 := rfl
    have h9 : '9'.toNat = 57 := rfl
    have ha : 'a'.toNat = 97 := rfl
    have hf : 'f'.toNat = 102 := rfl
    have hA : 'A'.toNat = 65 := rfl
    have hF : 'F'.toNat = 70 := rfl
    simp only [hexValue?, Glyph.code, h0, h9, ha, hf, hA, hF] at h
    rw [if_neg (by omega), if_neg (by omega), if_neg (by omega)] at h
    cases h

theorem whole_writeGlyph (g : Glyph) : Whole (writeGlyph false g) ↔ g.half? = none := by
  rcases writeGlyph_cases g with ⟨e, hw, -, he⟩ | ⟨a, b, c, d, hw, hunit, hcode⟩ | ⟨hw, -, -, -⟩
  · have hsome : e.half? = none ∧ g.half? = none := by
      unfold escapeChar? at he
      split at he
      case h_9 => cases he
      all_goals
        cases he
        exact ⟨rfl, rfl⟩
    simp [hw, Text.Utf8.Whole, hsome]
  · simp only [hexUnit?, Option.bind_eq_bind, Option.bind_eq_some_iff] at hunit
    obtain ⟨x, hx, y, hy, z, hz, w, hw', -⟩ := hunit
    have ha := half?_of_hexValue? hx
    have hb := half?_of_hexValue? hy
    have hc := half?_of_hexValue? hz
    have hd := half?_of_hexValue? hw'
    have hg : g.half? = none := half?_of_code (by omega)
    simp [hw, Text.Utf8.Whole, ha, hb, hc, hd, hg]
  · rw [hw, whole_cons]
    simp [Text.Utf8.Whole]

theorem whole_writeText (s : Text) : Whole (writeText false s) ↔ Whole s := by
  unfold writeText
  rw [List.cons_append, whole_cons, whole_append]
  have hquote : Whole [.char '"'] := by simp [Text.Utf8.Whole]
  have hflat : Whole (s.flatMap (writeGlyph false)) ↔ Whole s := by
    induction s with
    | nil => simp [Text.Utf8.Whole]
    | cons g rest ih => rw [List.flatMap_cons, whole_append, ih, whole_writeGlyph, whole_cons]
  rw [hflat]
  exact ⟨fun h => h.2.1, fun h => ⟨rfl, h, hquote⟩⟩

theorem whole_moreItems {items : List Doc} (hitems : ∀ d ∈ items, Whole (lineText d) ↔ d.Whole) :
    (Whole (lineItems items) ↔ ∀ d ∈ items, d.Whole) ∧
      (Whole (moreItems items) ↔ ∀ d ∈ items, d.Whole) := by
  induction items with
  | nil => simp [lineItems, moreItems, Text.Utf8.Whole]
  | cons d rest ih =>
    obtain ⟨hd, hrest⟩ := List.forall_mem_cons.1 hitems
    have hmore := (ih hrest).2
    simp only [lineItems, moreItems, whole_cons, whole_append, hd, hmore, List.forall_mem_cons,
      half?_char, true_and, and_self]

theorem whole_moreFields {fields : List (Text × Doc)}
    (hfields : ∀ f ∈ fields, Whole (lineText f.2) ↔ f.2.Whole) :
    (Whole (lineFields fields) ↔ ∀ f ∈ fields, Whole f.1 ∧ f.2.Whole) ∧
      (Whole (moreFields fields) ↔ ∀ f ∈ fields, Whole f.1 ∧ f.2.Whole) := by
  induction fields with
  | nil => simp [lineFields, moreFields, Text.Utf8.Whole]
  | cons f rest ih =>
    obtain ⟨hf, hrest⟩ := List.forall_mem_cons.1 hfields
    have hmore := (ih hrest).2
    simp only [lineFields, moreFields, whole_cons, whole_append, whole_writeText, hf, hmore,
      List.forall_mem_cons, half?_char, true_and, and_assoc, and_self]

/-- A line can be encoded exactly if its document holds no half. -/
theorem whole_lineText (d : Doc) : Whole (lineText d) ↔ d.Whole := by
  have hatom {s : Text} {d : Doc} (hs : Whole s) (hd : d.Whole) : Whole s ↔ d.Whole :=
    ⟨fun _ => hd, fun _ => hs⟩
  induction d using Doc.nested with
  | null => exact hatom (whole_word (w := ("null", .null)) (by simp [words])) trivial
  | bool b =>
    cases b with
    | true => exact hatom (whole_word (w := ("true", .bool true)) (by simp [words])) trivial
    | false => exact hatom (whole_word (w := ("false", .bool false)) (by simp [words])) trivial
  | int n =>
    rw [lineText, ← intSpelling_text]
    exact hatom (whole_of_inNumeral fun g => inNumeral_of_mem_text (intSpelling_wellFormed n)) trivial
  | real x =>
    rw [lineText]
    rcases writeFloat_cases x with hword | ⟨s, hs, -, htext, -⟩
    · exact hatom (whole_word hword) trivial
    · rw [← htext]
      exact hatom (whole_of_inNumeral fun g => inNumeral_of_mem_text hs) trivial
  | text s => exact whole_writeText s
  | list items ih =>
    rw [lineText, whole_cons, (whole_moreItems ih).1, Doc.whole_list]
    exact and_iff_right rfl
  | record fields ih =>
    rw [lineText, whole_cons, (whole_moreFields ih).1, Doc.whole_record]
    exact and_iff_right rfl

end Json

end QueryBench
