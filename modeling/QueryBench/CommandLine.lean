import QueryBench.Fault
import QueryBench.Number.Numeral
import QueryBench.Text.Search

/-!
# Options of a command

An option is a long name with one value, given behind it or after an equals sign. A name may be
shortened as long as it is the beginning of one option only. Of repeated options the last counts.

All words are understood first, then taken from left to right: a request for help ends the command
at once, a word that belongs nowhere only when all others have been taken.

Main definitions: `CommandLine.Parameter`, `CommandLine.Word`, `CommandLine.understand`,
`CommandLine.parse`.
-/
set_option autoImplicit false

namespace QueryBench.CommandLine

/-- Why the options of a command are not taken. -/
inductive Stop where
  | misuse
  | help
  deriving DecidableEq, Repr

def Stop.fault : Stop → Fault
  | misuse => .exit "2"
  | help => .exit "0"

/-- An option of a command, whose value may have to be a whole number. -/
structure Parameter where
  name : Text
  whole : Bool := false

/-- The value of an option. Two dashes behind an equals sign are no value. -/
abbrev Value := Option Text

/-- What a word of a command stands for. -/
inductive Word where
  /-- A value, of the option before it if there is one. -/
  | value
  /-- An option, with its value if an equals sign follows the name. -/
  | option (parameter : Parameter) (given : Option Text)
  | help
  /-- A request for help with a value, which it cannot have. -/
  | misused
  /-- Something that looks like an option and is none. -/
  | unknown
  /-- Two dashes, behind which there are no options. -/
  | divider

/-! ## Understanding a word -/

def isAnyDigit (g : Glyph) : Bool :=
  (Text.digitValue? g).isSome

/-- Does a word look like a negative number? It may end in a line feed. -/
def isNegativeNumber (word : Text) : Bool :=
  match if word.getLast? = some (.char '\n') then word.dropLast else word with
  | .char '-' :: body => match body.dropWhile isAnyDigit with
    | [] => !body.isEmpty
    | .char '.' :: fraction => !fraction.isEmpty && fraction.all isAnyDigit
    | _ => false
  | _ => false

/-- What `-h` stands for with the given characters behind it, which must ask for help again. -/
def attachedHelp (attached : Text) : Word :=
  if !attached.isEmpty && attached.all (· = 'h') then .help else .misused

/-- What an option stands for with a value, if an equals sign follows it; without a parameter it is
a request for help. -/
def Word.ofOption (parameter : Option Parameter) (given : Option Text) : Word :=
  match parameter, given with
  | some p, given => .option p given
  | none, some _ => .misused
  | none, none => .help

def longNames (parameters : List Parameter) : List (Text × Option Parameter) :=
  ("--help", none) :: parameters.map fun p => ("--" ++ p.name, some p)

def splitValue (word : Text) : Text × Option Text :=
  match Text.cut? "=" word with
  | some (name, value) => (name, some value)
  | none => (word, none)

/-- What a word with two dashes that names no option exactly stands for. -/
def abbreviated (parameters : List Parameter) (word : Text) : Except Stop (Option Word) :=
  let (name, given) := splitValue word
  match (longNames parameters).filter (Text.startsWith name ·.1) with
  | [] => .ok none
  | [option] => .ok (some (.ofOption option.2 given))
  | _ => .error .misuse

def otherWord (word : Text) : Word :=
  if isNegativeNumber word || decide (.char ' ' ∈ word) then .value else .unknown

def understand (parameters : List Parameter) (word : Text) : Except Stop Word :=
  let (name, given) := splitValue word
  match (longNames parameters).lookup name, word with
  | some parameter, _ => .ok (.ofOption parameter given)
  | none, [.char '-', .char 'h'] => .ok .help
  | none, .char '-' :: .char 'h' :: .char '=' :: attached => .ok (attachedHelp attached)
  | none, .char '-' :: .char 'h' :: attached => .ok (attachedHelp attached)
  | none, .char '-' :: .char '-' :: _ => do
    let found ← abbreviated parameters word
    return found.getD (otherWord word)
  | none, .char '-' :: _ :: _ => .ok (otherWord word)
  | none, _ => .ok .value

def understandAll (parameters : List Parameter) :
    List Text → Except Stop (List (Text × Word))
  | [] => .ok []
  | word :: rest =>
    if word = "--" then .ok ((word, .divider) :: rest.map fun w => (w, .value))
    else do
      let meaning ← understand parameters word
      let more ← understandAll parameters rest
      return (word, meaning) :: more

/-! ## Taking the options -/

/-- The value of an option with its name; one that must be a whole number is checked. -/
def accept (parameter : Parameter) (value : Text) : Except Stop (Text × Value) :=
  if parameter.whole && !(Number.readInt value).isOk then .error .misuse
  else .ok (parameter.name, some value)

/-- The options with their values in order; `extra` says that a word belongs nowhere. -/
def takeOptions (extra : Bool) : List (Text × Word) → Except Stop (List (Text × Value))
  | [] => if extra then .error .misuse else .ok []
  | (_, .help) :: _ => .error .help
  | (_, .misused) :: _ => .error .misuse
  | (_, .option p (some value)) :: rest => do
    let option ← if value = "--" then pure (p.name, none) else accept p value
    let more ← takeOptions extra rest
    return option :: more
  | (_, .option p none) :: (value, .value) :: rest => do
    let option ← accept p value
    let more ← takeOptions extra rest
    return option :: more
  | (_, .option _ none) :: _ => .error .misuse
  -- The words behind one that belongs nowhere may still ask for help.
  | _ :: rest => takeOptions true rest

/-- The options of a command with their values, in order; the names come without dashes. -/
def parse (parameters : List Parameter) (words : List Text) :
    Except Stop (List (Text × Value)) := do
  let understood ← understandAll parameters words
  takeOptions false understood

def valueOf (given : List (Text × Value)) (option default : Text) : Value :=
  (given.reverse.lookup option).getD (some default)

/-- The last value of an option as a whole number, or `default`. -/
def numberOf (given : List (Text × Value)) (option : Text) (default : Int) : Option Int :=
  match given.reverse.lookup option with
  | some value => value.map fun v => (Number.readInt v).toOption.getD default
  | none => some default

def pathOf (use : PathUse) : Value → Except Fault Text
  | some path => .ok path
  | none => .error (.pathNeeded use .list)

def shown (value : Value) : Text :=
  value.getD "[]"

end QueryBench.CommandLine
