import QueryBench.Text.Quoted

/-!
# Texts as bytes

A text is kept in files and databases as bytes in UTF-8. Bytes that encode no text are refused with
the place and the reason, and so is a text with half of a surrogate pair.

The bytes of a file name may be no text: each of those that are no part of a character is held by
half of a surrogate pair.

Main definitions: `Utf8.problem?`, `Utf8.decode`, `Utf8.Unpaired`, `Utf8.encode`, and for names
`Utf8.nameText` and `Utf8.nameBytes`.
-/
set_option autoImplicit false

namespace QueryBench.Text.Utf8

/-- Why bytes are not the code of a character. -/
inductive Reason where
  | start
  | continuation
  | ending
  deriving DecidableEq, Repr

def Reason.message : Reason → Text
  | start => "invalid start byte"
  | continuation => "invalid continuation byte"
  | ending => "unexpected end of data"

/-- Bytes that are no part of a text: the first of them, its position, and how many they are. -/
structure Problem where
  reason : Reason
  first : UInt8
  position : Nat
  count : Nat
  deriving DecidableEq, Repr

def Problem.message (p : Problem) : Text :=
  "'utf-8' codec can't decode " ++
    (if p.count = 1 then
      "byte 0x" ++ hexDigits 2 p.first.toNat ++ " in position " ++ toString p.position
    else
      "bytes in position " ++ toString p.position ++ "-" ++ toString (p.position + p.count - 1)) ++
    ": " ++ p.reason.message

/-- How many bytes follow the first byte of a character, if one begins with it. -/
def following? (b : UInt8) : Option Nat :=
  if b < 0x80 then some 0
  else if b < 0xC2 then none
  else if b < 0xE0 then some 1
  else if b < 0xF0 then some 2
  else if b < 0xF5 then some 3
  else none

/-- Can the byte be the second one of a character with this first byte? A shorter code, half of a
pair and what is beyond the last character are excluded. -/
def isSecond (first b : UInt8) : Bool :=
  let low : UInt8 := if first = 0xE0 then 0xA0 else if first = 0xF0 then 0x90 else 0x80
  let high : UInt8 := if first = 0xED then 0x9F else if first = 0xF4 then 0x8F else 0xBF
  low ≤ b && b ≤ high

def isLater (b : UInt8) : Bool :=
  0x80 ≤ b && b ≤ 0xBF

/-- How many of the given bytes continue a character with this first byte. -/
def continued (first : UInt8) : List UInt8 → Nat
  | [] => 0
  | b :: rest => if isSecond first b then 1 + (rest.takeWhile isLater).length else 0

/-- What is wrong with the character that begins with a byte and goes on in those behind it. -/
def characterProblem? (position : Nat) (first : UInt8) (rest : List UInt8) : Option Problem :=
  match following? first with
  | none => some ⟨.start, first, position, 1⟩
  | some n =>
    let tail := rest.take n
    let good := continued first tail
    if good < tail.length then some ⟨.continuation, first, position, good + 1⟩
    else if good < n then some ⟨.ending, first, position, good + 1⟩
    else none

/-- The first problem of the bytes from a position on; `skip` counts those that belong to a
character already looked at. -/
def problemFrom? (position skip : Nat) : List UInt8 → Option Problem
  | [] => none
  | b :: rest =>
    match skip with
    | k + 1 => problemFrom? (position + 1) k rest
    | 0 => match characterProblem? position b rest with
      | some p => some p
      | none => problemFrom? (position + 1) ((following? b).getD 0) rest

def problem? (bytes : List UInt8) : Option Problem :=
  problemFrom? 0 0 bytes

/-- The code of the character with this first byte and the given ones behind it. -/
def characterCode (first : UInt8) (rest : List UInt8) : Nat :=
  let lead := match rest.length with
    | 0 => first.toNat
    | 1 => first.toNat % 0x20
    | 2 => first.toNat % 0x10
    | _ => first.toNat % 0x08
  rest.foldl (fun n b => 0x40 * n + b.toNat % 0x40) lead

def byteHalf (b : UInt8) : Glyph :=
  .ofCode (0xDC00 + b.toNat)

/-- The text of bytes; `skip` counts those that belong to a character already read. A byte that is
no part of a character gives the half of a pair that holds it. -/
def glyphsFrom (skip : Nat) : List UInt8 → Text
  | [] => []
  | b :: rest =>
    match skip with
    | k + 1 => glyphsFrom k rest
    | 0 => match characterProblem? 0 b rest with
      | some _ => byteHalf b :: glyphsFrom 0 rest
      | none =>
        let n := (following? b).getD 0
        .ofCode (characterCode b (rest.take n)) :: glyphsFrom n rest

/-- The text of the bytes of a name, any of which may be no part of a character. -/
def nameText (bytes : List UInt8) : Text :=
  glyphsFrom 0 bytes

def decode (bytes : List UInt8) : Except Problem Text :=
  match problem? bytes with
  | some p => .error p
  | none => .ok (glyphsFrom 0 bytes)

/-! ## Texts that have no bytes -/

/-- Halves of pairs in a text: the first of them, its position, and how many they are. -/
structure Unpaired where
  first : Nat
  position : Nat
  count : Nat
  deriving DecidableEq, Repr

def Unpaired.message (u : Unpaired) : Text :=
  "'utf-8' codec can't encode " ++
    (if u.count = 1 then
      "character '\\u" ++ hexDigits 4 u.first ++ "' in position " ++ toString u.position
    else
      "characters in position " ++ toString u.position ++ "-" ++
        toString (u.position + u.count - 1)) ++
    ": surrogates not allowed"

/-- The first halves of pairs from a position on that are not let through. Of several together,
those at their beginning may be let through. -/
def unpairedFrom? (through : Nat → Bool) (position : Nat) : Text → Option Unpaired
  | [] => none
  | g :: rest =>
    match g.half? with
    | some half =>
      if through half then unpairedFrom? through (position + 1) rest
      else some ⟨half, position, 1 + (rest.takeWhile fun g => g.half?.isSome).length⟩
    | none => unpairedFrom? through (position + 1) rest

def unpaired? (s : Text) : Option Unpaired :=
  unpairedFrom? (fun _ => false) 0 s

def isByteHalf (n : Nat) : Bool := 0xDC80 ≤ n && n ≤ 0xDCFF

/-- The first halves of pairs in a text that do not hold a byte of a name. -/
def unpairedName? (s : Text) : Option Unpaired :=
  unpairedFrom? isByteHalf 0 s

/-- The byte that holds six bits of a code, those above the last `shift`. -/
def laterByte (code shift : Nat) : UInt8 :=
  (0x80 + code / Nat.pow 2 shift % 0x40).toUInt8

/-- The bytes of a glyph. A half of a pair has those of a character with its code. -/
def glyphBytes (g : Glyph) : List UInt8 :=
  let n := g.code
  if n < 0x80 then [n.toUInt8]
  else if n < 0x800 then [(0xC0 + n / 0x40).toUInt8, laterByte n 0]
  else if n < 0x10000 then [(0xE0 + n / 0x1000).toUInt8, laterByte n 6, laterByte n 0]
  else [(0xF0 + n / 0x40000).toUInt8, laterByte n 12, laterByte n 6, laterByte n 0]

def bytes (s : Text) : List UInt8 :=
  s.flatMap glyphBytes

/-- The bytes of a name, where a half of a pair may hold one. -/
def nameBytes (s : Text) : List UInt8 :=
  s.flatMap fun g =>
    if g.half?.any isByteHalf then [(g.code - 0xDC00).toUInt8] else glyphBytes g

def encode (s : Text) : Except Unpaired (List UInt8) :=
  match unpaired? s with
  | some u => .error u
  | none => .ok (bytes s)

end QueryBench.Text.Utf8
