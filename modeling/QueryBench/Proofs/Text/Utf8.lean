import Mathlib.Algebra.Group.Nat.Defs
import QueryBench.Text.Utf8

/-!
# Texts and their bytes

A text without halves of surrogate pairs is read back from its bytes.

Main statements: `decode_bytes`, and `encode_eq_ok_iff` for the texts that have bytes.
-/
set_option autoImplicit false

namespace QueryBench.Text.Utf8

theorem toNat_toUInt8 {n : Nat} (hn : n < 0x100) : n.toUInt8.toNat = n := by
  rw [Nat.toUInt8, UInt8.toNat_ofNat', Nat.mod_eq_of_lt hn]

theorem toNat_laterByte (code shift : Nat) :
    (laterByte code shift).toNat = 0x80 + code / 2 ^ shift % 0x40 := by
  unfold laterByte
  rw [toNat_toUInt8 (by omega)]
  rfl

theorem following?_eq (b : UInt8) :
    following? b =
      if b.toNat < 0x80 then some 0
      else if b.toNat < 0xC2 then none
      else if b.toNat < 0xE0 then some 1
      else if b.toNat < 0xF0 then some 2
      else if b.toNat < 0xF5 then some 3
      else none := by
  simp only [following?, UInt8.lt_iff_toNat_lt]
  rfl

theorem isSecond_eq_true (first b : UInt8) :
    isSecond first b = true ↔
      (if first.toNat = 0xE0 then 0xA0 else if first.toNat = 0xF0 then 0x90 else 0x80) ≤ b.toNat ∧
        b.toNat ≤ if first.toNat = 0xED then 0x9F else if first.toNat = 0xF4 then 0x8F else 0xBF := by
  simp only [isSecond, Bool.and_eq_true, decide_eq_true_eq, UInt8.le_iff_toNat_le,
    apply_ite UInt8.toNat, ← UInt8.toNat_inj]
  rfl

theorem isLater_laterByte (code shift : Nat) : isLater (laterByte code shift) = true := by
  simp only [isLater, Bool.and_eq_true, decide_eq_true_eq, UInt8.le_iff_toNat_le, toNat_laterByte]
  constructor
  · show 0x80 ≤ _
    omega
  · show _ ≤ 0xBF
    omega

/-- The bytes of a character: a first byte that says how many follow, those that follow it, and the
code they hold. -/
theorem glyphBytes_char (c : Char) :
    ∃ b tail, glyphBytes (.char c) = b :: tail ∧ following? b = some tail.length ∧
      continued b tail = tail.length ∧ characterCode b tail = c.toNat := by
  have hgap : ¬(0xD800 ≤ c.toNat ∧ c.toNat ≤ 0xDFFF) := Glyph.toNat_outside c
  have hmax : c.toNat < 0x110000 := by
    have hvalid : c.val.toNat < 0xD800 ∨ 0xDFFF < c.val.toNat ∧ c.val.toNat < 0x110000 := c.valid
    show c.val.toNat < 0x110000
    omega
  have hcode : (Glyph.char c).code = c.toNat := rfl
  generalize c.toNat = n at hgap hmax hcode
  unfold glyphBytes
  simp only [hcode]
  by_cases h1 : n < 0x80
  · have hb := toNat_toUInt8 (by omega : n < 0x100)
    rw [if_pos h1]
    refine ⟨_, _, rfl, ?_, rfl, ?_⟩
    · rw [following?_eq, hb, if_pos h1]
      rfl
    · simp only [characterCode, List.length_nil, List.foldl_nil, hb]
  rw [if_neg h1]
  by_cases h2 : n < 0x800
  · have hb := toNat_toUInt8 (by omega : 0xC0 + n / 0x40 < 0x100)
    rw [if_pos h2]
    refine ⟨_, _, rfl, ?_, ?_, ?_⟩
    · rw [following?_eq, hb, if_neg (by omega), if_neg (by omega), if_pos (by omega)]
      rfl
    · have hsecond : isSecond (0xC0 + n / 0x40).toUInt8 (laterByte n 0) = true := by
        rw [isSecond_eq_true, hb, toNat_laterByte]
        repeat' split
        all_goals omega
      simp only [continued, hsecond, if_true]
      rfl
    · simp only [characterCode, List.length_cons, List.length_nil, List.foldl_cons, List.foldl_nil,
        hb, toNat_laterByte]
      omega
  rw [if_neg h2]
  by_cases h3 : n < 0x10000
  · have hb := toNat_toUInt8 (by omega : 0xE0 + n / 0x1000 < 0x100)
    rw [if_pos h3]
    refine ⟨_, _, rfl, ?_, ?_, ?_⟩
    · rw [following?_eq, hb, if_neg (by omega), if_neg (by omega), if_neg (by omega),
        if_pos (by omega)]
      rfl
    · have hsecond : isSecond (0xE0 + n / 0x1000).toUInt8 (laterByte n 6) = true := by
        rw [isSecond_eq_true, hb, toNat_laterByte]
        repeat' split
        all_goals omega
      simp only [continued, hsecond, if_true, List.takeWhile_cons, isLater_laterByte,
        List.takeWhile_nil]
      rfl
    · simp only [characterCode, List.length_cons, List.length_nil, List.foldl_cons, List.foldl_nil,
        hb, toNat_laterByte]
      omega
  rw [if_neg h3]
  have hb := toNat_toUInt8 (by omega : 0xF0 + n / 0x40000 < 0x100)
  refine ⟨_, _, rfl, ?_, ?_, ?_⟩
  · rw [following?_eq, hb, if_neg (by omega), if_neg (by omega), if_neg (by omega),
      if_neg (by omega), if_pos (by omega)]
    rfl
  · have hsecond : isSecond (0xF0 + n / 0x40000).toUInt8 (laterByte n 12) = true := by
      rw [isSecond_eq_true, hb, toNat_laterByte]
      repeat' split
      all_goals omega
    simp only [continued, hsecond, if_true, List.takeWhile_cons, isLater_laterByte,
      List.takeWhile_nil]
    rfl
  · simp only [characterCode, List.length_cons, List.length_nil, List.foldl_cons, List.foldl_nil,
      hb, toNat_laterByte]
    omega

/-! ## Whole texts -/

theorem problemFrom?_skip (tail rest : List UInt8) (position : Nat) :
    problemFrom? position tail.length (tail ++ rest) =
      problemFrom? (position + tail.length) 0 rest := by
  induction tail generalizing position with
  | nil => rfl
  | cons b tail ih =>
    rw [List.cons_append, List.length_cons, problemFrom?, ih, Nat.add_assoc, Nat.add_comm 1]

theorem glyphsFrom_skip (tail rest : List UInt8) :
    glyphsFrom tail.length (tail ++ rest) = glyphsFrom 0 rest := by
  induction tail with
  | nil => rfl
  | cons b tail ih => rw [List.cons_append, List.length_cons, glyphsFrom, ih]

theorem characterProblem?_eq_none {b : UInt8} {tail : List UInt8}
    (hfollowing : following? b = some tail.length) (hcontinued : continued b tail = tail.length)
    (position : Nat) (rest : List UInt8) : characterProblem? position b (tail ++ rest) = none := by
  unfold characterProblem?
  simp [hfollowing, hcontinued]

/-- Has a text no halves of surrogate pairs? -/
def Whole (s : Text) : Prop :=
  ∀ g ∈ s, g.half? = none

theorem problemFrom?_bytes {s : Text} (hs : Whole s) (position : Nat) :
    problemFrom? position 0 (bytes s) = none := by
  induction s generalizing position with
  | nil => rfl
  | cons g s ih =>
    obtain ⟨hg, hrest⟩ := List.forall_mem_cons.1 hs
    cases g with
    | half n => cases hg
    | char c =>
      obtain ⟨b, tail, hbytes, hfollowing, hcontinued, -⟩ := glyphBytes_char c
      rw [bytes, List.flatMap_cons, hbytes, List.cons_append, problemFrom?,
        characterProblem?_eq_none hfollowing hcontinued, hfollowing, Option.getD_some]
      exact (problemFrom?_skip tail _ _).trans (ih hrest _)

theorem glyphsFrom_bytes {s : Text} (hs : Whole s) : glyphsFrom 0 (bytes s) = s := by
  induction s with
  | nil => rfl
  | cons g s ih =>
    obtain ⟨hg, hrest⟩ := List.forall_mem_cons.1 hs
    cases g with
    | half n => cases hg
    | char c =>
      obtain ⟨b, tail, hbytes, hfollowing, hcontinued, hcode⟩ := glyphBytes_char c
      have hglyph : Glyph.ofCode (characterCode b tail) = .char c := by
        rw [hcode]
        exact Glyph.ofCode_code (.char c)
      rw [bytes, List.flatMap_cons, hbytes, List.cons_append, glyphsFrom,
        characterProblem?_eq_none hfollowing hcontinued, hfollowing, Option.getD_some]
      simp only [List.take_left']
      rw [hglyph, glyphsFrom_skip]
      exact congrArg _ (ih hrest)

/-- A text is read back from its bytes. -/
theorem decode_bytes {s : Text} (hs : Whole s) : decode (bytes s) = .ok s := by
  rw [decode, problem?, problemFrom?_bytes hs, glyphsFrom_bytes hs]

theorem unpairedFrom?_eq_none_iff {s : Text} {position : Nat} :
    unpairedFrom? (fun _ => false) position s = none ↔ Whole s := by
  induction s generalizing position with
  | nil => simp [unpairedFrom?, Whole]
  | cons g s ih =>
    have hcons : Whole (g :: s) ↔ g.half? = none ∧ Whole s := List.forall_mem_cons
    rw [hcons, unpairedFrom?]
    cases g.half? with
    | none => simp [ih]
    | some n => simp

/-- The texts without halves of pairs are those that have bytes. -/
theorem encode_eq_ok_iff {s : Text} {content : List UInt8} :
    encode s = .ok content ↔ Whole s ∧ content = bytes s := by
  rw [← @unpairedFrom?_eq_none_iff s 0]
  unfold encode unpaired?
  cases unpairedFrom? (fun _ => false) 0 s with
  | none => simp [eq_comm]
  | some u => simp

/-! ## Bytes behind others -/

theorem continued_le (first : UInt8) (tail : List UInt8) : continued first tail ≤ tail.length := by
  cases tail with
  | nil => exact Nat.le_refl 0
  | cons b rest =>
    have htaken := (List.takeWhile_sublist isLater (l := rest)).length_le
    rw [continued, List.length_cons]
    split <;> omega

/-- A character that is complete stays so, whatever follows. -/
theorem characterProblem?_append {b : UInt8} {position : Nat} {rest : List UInt8}
    (h : characterProblem? position b rest = none) :
    ∃ n, following? b = some n ∧ n ≤ rest.length ∧
      ∀ position' more, characterProblem? position' b (rest ++ more) = none := by
  unfold characterProblem? at h ⊢
  cases hfollowing : following? b with
  | none =>
    rw [hfollowing] at h
    cases h
  | some n =>
    rw [hfollowing] at h
    have hcontinued := continued_le b (rest.take n)
    have htake : (rest.take n).length = min n rest.length := List.length_take
    dsimp only at h
    split at h
    next => cases h
    next hgood =>
      split at h
      next => cases h
      next hlong =>
        have hn : n ≤ rest.length := by omega
        refine ⟨n, rfl, hn, fun position' more => ?_⟩
        dsimp only
        rw [List.take_append_of_le_length hn, if_neg hgood, if_neg hlong]

/-- Bytes of a text and others behind them are looked at one after the other. -/
theorem from_append {front : List UInt8} {position skip : Nat} (hskip : skip ≤ front.length)
    (h : problemFrom? position skip front = none) (rest : List UInt8) :
    problemFrom? position skip (front ++ rest) = problemFrom? (position + front.length) 0 rest ∧
      glyphsFrom skip (front ++ rest) = glyphsFrom skip front ++ glyphsFrom 0 rest := by
  induction front generalizing position skip with
  | nil =>
    obtain rfl : skip = 0 := Nat.le_zero.1 hskip
    exact ⟨rfl, rfl⟩
  | cons b front ih =>
    have hposition : position + (b :: front).length = position + 1 + front.length := by
      rw [List.length_cons]
      omega
    rw [hposition]
    cases skip with
    | succ k => exact ih (Nat.le_of_succ_le_succ hskip) h
    | zero =>
      rw [problemFrom?] at h
      cases hproblem : characterProblem? position b front with
      | some p =>
        rw [hproblem] at h
        cases h
      | none =>
        rw [hproblem] at h
        obtain ⟨n, hfollowing, hn, hcomplete⟩ := characterProblem?_append hproblem
        have hfront : characterProblem? 0 b front = none := by
          have hnil := hcomplete 0 []
          rwa [List.append_nil] at hnil
        rw [hfollowing] at h
        obtain ⟨hproblems, hglyphs⟩ := ih hn h
        rw [List.cons_append, problemFrom?, glyphsFrom, glyphsFrom, hcomplete, hcomplete, hfront, hfollowing]
        refine ⟨hproblems, ?_⟩
        simp only [Option.getD_some]
        rw [List.take_append_of_le_length hn, hglyphs, List.cons_append]

/-- A text that is written behind another one is read behind it. -/
theorem decode_append {front : List UInt8} {t s : Text} (ht : decode front = .ok t) (hs : Whole s) :
    decode (front ++ bytes s) = .ok (t ++ s) := by
  unfold decode problem? at ht ⊢
  cases hproblem : problemFrom? 0 0 front with
  | some p =>
    rw [hproblem] at ht
    cases ht
  | none =>
    rw [hproblem] at ht
    cases ht
    obtain ⟨hproblems, hglyphs⟩ := from_append (Nat.zero_le _) hproblem (bytes s)
    rw [hproblems, problemFrom?_bytes hs, hglyphs, glyphsFrom_bytes hs]

end QueryBench.Text.Utf8
