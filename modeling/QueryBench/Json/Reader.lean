import QueryBench.Json.Problem
import QueryBench.Number.Numeral

/-!
# Reading written documents

Beside the standard grammar, `NaN`, `Infinity` and `-Infinity` are numbers. A number with a
fraction or an exponent is a floating point number, any other a whole number. A repeated key keeps
its first place and its last value. How the digits of a number give its value, and how the pieces
of a text make it, is left to a dialect.

Main definitions: `Json.Numeral`, `Json.Piece`, `Json.Dialect`, `Json.standard`, `Json.readWith`,
`Json.read`.
-/
set_option autoImplicit false

namespace QueryBench.Json

/-- A place in the text: how many glyphs were read, and those that follow. -/
structure Cursor where
  position : Nat
  rest : Text

namespace Cursor

def advance (c : Cursor) (n : Nat) : Cursor :=
  ⟨c.position + n, c.rest.drop n⟩

def isSpace (g : Glyph) : Bool :=
  g = ' ' || g = '\t' || g = '\n' || g = '\r'

def skipSpace (c : Cursor) : Cursor :=
  let spaces := (c.rest.takeWhile isSpace).length
  c.advance spaces

def fail {α : Type} (c : Cursor) (problem : Problem) : Except Error (α × Cursor) :=
  .error (.syntactic problem c.position)

end Cursor

/-! ## Texts -/

def hexValue? (g : Glyph) : Option Nat :=
  let n := g.code
  if '0'.toNat ≤ n ∧ n ≤ '9'.toNat then some (n - '0'.toNat)
  else if 'a'.toNat ≤ n ∧ n ≤ 'f'.toNat then some (n - 'a'.toNat + 10)
  else if 'A'.toNat ≤ n ∧ n ≤ 'F'.toNat then some (n - 'A'.toNat + 10)
  else none

def hexUnit? (a b c d : Glyph) : Option Nat := do
  let a ← hexValue? a
  let b ← hexValue? b
  let c ← hexValue? c
  let d ← hexValue? d
  return ((a * 16 + b) * 16 + c) * 16 + d

def escapeChar? : Glyph → Option Glyph
  | .char '"' => some '"'
  | .char '\\' => some '\\'
  | .char '/' => some '/'
  | .char 'b' => some '\x08'
  | .char 'f' => some '\x0c'
  | .char 'n' => some '\n'
  | .char 'r' => some '\r'
  | .char 't' => some '\t'
  | _ => none

/-- A piece of a written text: a glyph, or a unit of 16 bits given by its digits. -/
inductive Piece where
  | plain (g : Glyph)
  | unit (n : Nat)

/-- The pieces of a text up to its closing quote, where `start` is the place of the opening quote,
`position` that of the first glyph given, and `acc` holds the pieces read, last first. The digits
of a unit may not be the last of the text. -/
def readPieces (start : Nat) (acc : List Piece) (position : Nat) :
    Text → Except Error (List Piece × Cursor)
  | [] => .error (.syntactic .unterminated start)
  | .char '"' :: rest => .ok (acc.reverse, ⟨position + 1, rest⟩)
  | [.char '\\'] => .error (.syntactic .unterminated start)
  | .char '\\' :: .char 'u' :: a :: b :: c :: d :: next :: rest => match hexUnit? a b c d with
    | some n => readPieces start (.unit n :: acc) (position + 6) (next :: rest)
    | none => .error (.syntactic .unicodeEscape (position + 1))
  | .char '\\' :: .char 'u' :: _ => .error (.syntactic .unicodeEscape (position + 1))
  | .char '\\' :: e :: rest => match escapeChar? e with
    | some g => readPieces start (.plain g :: acc) (position + 2) rest
    | none => .error (.syntactic .escape position)
  | g :: rest =>
    if g.code < 0x20 then .error (.syntactic .control position)
    else readPieces start (.plain g :: acc) (position + 1) rest

/-- The text of pieces, behind the first half of a pair if there is one. Two halves side by
side make one character. -/
def joinPairs (high : Option Nat) : List Piece → Text
  | [] => high.toList.map Glyph.ofCode
  | .plain g :: rest => high.toList.map Glyph.ofCode ++ g :: joinPairs none rest
  | .unit n :: rest =>
    match high with
    | some h =>
      if Glyph.isLow n then Glyph.pair h n :: joinPairs none rest
      else if Glyph.isHigh n then Glyph.ofCode h :: joinPairs (some n) rest
      else Glyph.ofCode h :: Glyph.ofCode n :: joinPairs none rest
    | none =>
      if Glyph.isHigh n then joinPairs (some n) rest
      else Glyph.ofCode n :: joinPairs none rest

/-! ## Numbers -/

def isDigit (g : Glyph) : Bool :=
  '0'.toNat ≤ g.code && g.code ≤ '9'.toNat

/-- The digits at the cursor, and the place behind them. -/
def takeDigits (c : Cursor) : Text × Cursor :=
  let digits := c.rest.takeWhile isDigit
  (digits, c.advance digits.length)

def digitsValue (ds : Text) : Nat :=
  ds.foldl (fun acc d => 10 * acc + (d.code - '0'.toNat)) 0

def takeFraction (c : Cursor) : Option (Text × Cursor) :=
  match c.rest with
  | .char '.' :: d :: _ => if isDigit d then some (takeDigits (c.advance 1)) else none
  | _ => none

def takeExponent (c : Cursor) : Option (Int × Cursor) :=
  match c.rest with
  | e :: rest =>
    if e = 'e' || e = 'E' then
      let (negative, signed) := match rest with
        | .char '-' :: _ => (true, true)
        | .char '+' :: _ => (false, true)
        | _ => (false, false)
      let (digits, next) := takeDigits (c.advance (if signed then 2 else 1))
      if digits.isEmpty then none
      else
        let n : Int := digitsValue digits
        some (if negative then -n else n, next)
    else none
  | [] => none

/-- A number as it is written: the digits before the point, those behind it if there is one, and
the exponent if there is one. -/
structure Numeral where
  negative : Bool
  whole : Text
  fraction : Option Text
  exponent : Option Int

/-- A whole number exactly, any other as the nearest floating point number. -/
def nearestValue (n : Numeral) : Except Error Doc :=
  match n.fraction, n.exponent with
  | none, none =>
    if Number.numeralLimit < n.whole.length then
      .error (.refused (.numeralTooLong n.whole.length))
    else
      let value : Int := digitsValue n.whole
      .ok (.int (if n.negative then -value else value))
  | fraction, exponent =>
    let digits := fraction.getD []
    .ok (.real (Number.ofDecimal n.negative (digitsValue (n.whole ++ digits))
      (exponent.getD 0 - digits.length)))

def readNumeral (c : Cursor) : Except Error (Numeral × Cursor) :=
  let negative := c.rest.head? = some (.char '-')
  let unsigned := if negative then c.advance 1 else c
  let (whole, next) :=
    if unsigned.rest.head? = some (.char '0') then ([Glyph.char '0'], unsigned.advance 1)
    else takeDigits unsigned
  if whole.isEmpty then c.fail .value
  else
    let fraction := takeFraction next
    let next := (fraction.map Prod.snd).getD next
    let exponent := takeExponent next
    .ok (⟨negative, whole, fraction.map Prod.fst, exponent.map Prod.fst⟩,
      (exponent.map Prod.snd).getD next)

/-! ## Documents -/

/-- What numbers and texts stand for. -/
structure Dialect where
  number : Numeral → Except Error Doc
  text : List Piece → Except Error Text

/-- Numbers are the nearest ones, and halves of pairs are joined where they stand side by side. -/
def standard : Dialect where
  number := nearestValue
  text pieces := .ok (joinPairs none pieces)

def readNumber (dialect : Dialect) (c : Cursor) : Except Error (Doc × Cursor) := do
  let (numeral, next) ← readNumeral c
  return (← dialect.number numeral, next)

def readText (dialect : Dialect) (c : Cursor) : Except Error (Text × Cursor) := do
  let (pieces, next) ← readPieces c.position [] (c.position + 1) (c.rest.drop 1)
  return (← dialect.text pieces, next)

def words : List (Text × Doc) :=
  [("null", .null), ("true", .bool true), ("false", .bool false), ("NaN", .real (0.0 / 0.0)),
   ("Infinity", .real (1.0 / 0.0)), ("-Infinity", .real (-1.0 / 0.0))]

def readWord? (c : Cursor) : Option (Doc × Cursor) :=
  words.findSome? fun w =>
    if w.1.isPrefixOf c.rest then some (w.2, c.advance w.1.length) else none

def depthLimit : Nat := 990

mutual

/-- The document at the cursor; `depth` more levels may be opened, and the fuel bounds the number
of calls. -/
def readValue (dialect : Dialect) : Nat → Nat → Cursor → Except Error (Doc × Cursor)
  | 0, _, c => c.fail .value
  | fuel + 1, depth, c =>
    match c.rest with
    | [] => c.fail .value
    | .char '"' :: _ => (readText dialect c).map fun r => (Doc.text r.1, r.2)
    | .char '\x7b' :: _ => match depth with
      | 0 => .error (.refused (.tooDeep .readRecord))
      | depth + 1 =>
        let inner := (c.advance 1).skipSpace
        match inner.rest with
        | .char '\x7d' :: _ => .ok (.record [], inner.advance 1)
        | _ => readFields dialect fuel depth [] inner
    | .char '[' :: _ => match depth with
      | 0 => .error (.refused (.tooDeep .readList))
      | depth + 1 =>
        let inner := (c.advance 1).skipSpace
        match inner.rest with
        | .char ']' :: _ => .ok (.list [], inner.advance 1)
        | _ => readItems dialect fuel depth [] inner
    -- Words come before numbers, since one of them begins with a sign.
    | _ => match readWord? c with
      | some r => .ok r
      | none => readNumber dialect c

/-- The items of a list from the cursor on; `acc` holds those read, last first. -/
def readItems (dialect : Dialect) :
    Nat → Nat → List Doc → Cursor → Except Error (Doc × Cursor)
  | 0, _, _, c => c.fail .value
  | fuel + 1, depth, acc, c => do
    let (item, after) ← readValue dialect fuel depth c
    let next := after.skipSpace
    match next.rest with
    | .char ']' :: _ => .ok (.list (item :: acc).reverse, next.advance 1)
    | .char ',' :: _ => readItems dialect fuel depth (item :: acc) (next.advance 1).skipSpace
    | _ => next.fail .comma

/-- The fields of a record from the cursor on, added to those in `acc`. -/
def readFields (dialect : Dialect) :
    Nat → Nat → List (Text × Doc) → Cursor → Except Error (Doc × Cursor)
  | 0, _, _, c => c.fail .value
  | fuel + 1, depth, acc, c =>
    match c.rest with
    | .char '"' :: _ => do
      let (key, after) ← readText dialect c
      let colon := after.skipSpace
      match colon.rest with
      | .char ':' :: _ => do
        let (value, after) ← readValue dialect fuel depth (colon.advance 1).skipSpace
        let next := after.skipSpace
        let acc := Doc.put acc key value
        match next.rest with
        | .char '\x7d' :: _ => .ok (.record acc, next.advance 1)
        | .char ',' :: _ => readFields dialect fuel depth acc (next.advance 1).skipSpace
        | _ => next.fail .comma
      | _ => colon.fail .colon
    | _ => c.fail .name

end

def readAll (dialect : Dialect) (s : Text) : Except Error Doc :=
  match s with
  | .char '\ufeff' :: _ => .error (.syntactic .byteOrderMark 0)
  | _ => do
    -- At most two calls start at the same glyph, so the fuel lasts to the end.
    let (doc, after) ← readValue dialect (2 * s.length + 2) depthLimit
      (Cursor.skipSpace ⟨0, s⟩)
    let final := after.skipSpace
    if final.rest.isEmpty then .ok doc else .error (.syntactic .extra final.position)

def readWith (dialect : Dialect) (s : Text) : Except Fault Doc :=
  (readAll dialect s).mapError (·.fault s)

def read (s : Text) : Except Fault Doc :=
  readWith standard s

end QueryBench.Json
