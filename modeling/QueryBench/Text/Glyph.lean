/-!
# Glyphs

A character above the first 65536 codes can be written as a pair of 16 bit units, and a text may
hold one half of such a pair without the other. A glyph is a character or such a half. The codes
of the halves fill the gap between the characters U+D7FF and U+E000, so that a glyph is known by
its code, and glyphs are ordered by it.

Main definitions: `Glyph`, `Glyph.code`, `Glyph.ofCode`, `Glyph.pair`. Main statement:
`Glyph.ofCode_code`, by which a code belongs to one glyph.
-/
set_option autoImplicit false

namespace QueryBench

/-- A character, or half of a surrogate pair. -/
inductive Glyph where
  | char (c : Char)
  /-- The half with the code `0xD800 + n`. -/
  | half (n : Fin 0x800)
  deriving DecidableEq, Inhabited, Repr

namespace Glyph

instance : Coe Char Glyph := ⟨char⟩

def code : Glyph → Nat
  | char c => c.toNat
  | half n => 0xD800 + n.val

instance : LT Glyph := ⟨fun a b => a.code < b.code⟩

instance : DecidableLT Glyph := fun a b => Nat.decLt a.code b.code

instance : Ord Glyph := ⟨fun a b => compare a.code b.code⟩

def isHigh (n : Nat) : Bool := 0xD800 ≤ n && n ≤ 0xDBFF

def isLow (n : Nat) : Bool := 0xDC00 ≤ n && n ≤ 0xDFFF

def pair (high low : Nat) : Glyph :=
  char (Char.ofNat (0x10000 + (high - 0xD800) * 0x400 + (low - 0xDC00)))

def ofCode (n : Nat) : Glyph :=
  if h : 0xD800 ≤ n ∧ n ≤ 0xDFFF then half ⟨n - 0xD800, by omega⟩ else char (Char.ofNat n)

def half? : Glyph → Option Nat
  | char _ => none
  | half n => some (0xD800 + n.val)

theorem toNat_outside (c : Char) : ¬(0xD800 ≤ c.toNat ∧ c.toNat ≤ 0xDFFF) := by
  have h : c.val.toNat < 0xD800 ∨ 0xDFFF < c.val.toNat ∧ c.val.toNat < 0x110000 := c.valid
  show ¬(0xD800 ≤ c.val.toNat ∧ c.val.toNat ≤ 0xDFFF)
  omega

theorem ofCode_code (g : Glyph) : ofCode g.code = g := by
  cases g with
  | char c => rw [code, ofCode, dif_neg (toNat_outside c), Char.ofNat_toNat]
  | half n =>
    have h : 0xD800 ≤ 0xD800 + n.val ∧ 0xD800 + n.val ≤ 0xDFFF := by omega
    rw [code, ofCode, dif_pos h]
    exact congrArg half (Fin.ext (Nat.add_sub_cancel_left 0xD800 n.val))

end Glyph

end QueryBench
