import QueryBench.Doc.Basic
import QueryBench.Text.Utf8

/-!
# Faults

Everything that can stop a computation, as causes, and the wording of each in `Fault.message`.
-/
set_option autoImplicit false

namespace QueryBench

/-- What a path is needed for. -/
inductive PathUse where
  | lookUp
  /-- To be put behind a folder. -/
  | join
  | other
  deriving DecidableEq, Repr

/-- What goes on where a document turns out to go too deep. -/
inductive Nesting where
  | readRecord
  | readList
  | written
  deriving DecidableEq, Repr

def Nesting.activity : Nesting → Text
  | readRecord => "decoding a JSON object from a unicode string"
  | readList => "decoding a JSON array from a unicode string"
  | written => "encoding a JSON object"

/-- The cause that stopped a computation. -/
inductive Fault where
  /-- A value of this kind has no operation or property of this name. -/
  | noAttribute (owner : Kind) (name : Text)
  /-- A record or table has no such key. -/
  | missingKey (key : Doc)
  | notIterable (kind : Kind)
  | notSearchable (kind : Kind)
  | notSubscriptable (kind : Kind)
  | textIndex (kind : Kind)
  | listIndex (kind : Kind)
  | outOfRange
  | textOutOfRange
  | noLength (kind : Kind)
  | unhashable (kind : Kind)
  | joinItem (position : Nat) (kind : Kind)
  | joinSource
  | operands (operator : Text) (left right : Kind)
  | appendText (right : Kind)
  | appendList (right : Kind)
  /-- A number is to be divided that cannot be made one of the numbers of a column. -/
  | divisionOperand
  | unordered (operator : Text) (left right : Kind)
  | notNumeral (text : Text)
  | numeralTooLong (digits : Nat)
  | numberTooLong
  | cellTooBig
  | cellTooSmall
  | notIntegral (kind : Kind)
  | infinite
  | notANumber
  | tooLarge
  | divisionByZero
  | floatDivisionByZero
  | tooFewItems (expected got : Nat)
  | tooManyItems (expected : Nat)
  | notUnpackable (kind : Kind)
  | cellOutOfRange
  | recordSlice
  | bytesNeeded
  | noWidth (kind : Kind)
  | numberFormat (kind : Kind) (code : Text)
  | sliceBound
  | circular
  /-- A text is not a document; the position is written out. -/
  | malformed (description : Text)
  | tooDeep (nesting : Nesting)
  | undecodable (problem : Text.Utf8.Problem)
  | unencodable (halves : Text.Utf8.Unpaired)
  /-- A text of a dataset has the first half of a surrogate pair without the second. -/
  | unpairedHalf
  /-- A path is needed, and a value of this kind is given. -/
  | pathNeeded (use : PathUse) (kind : Kind)
  | noFile (path : Text)
  /-- A folder stands where a file should be. -/
  | isFolder (path : Text)
  /-- A file stands where a folder should be. -/
  | notFolder (path : Text)
  /-- A file stands where a folder is to be made. -/
  | fileExists (path : Text)
  | nameTooLong (path : Text)
  | nullInPath
  | noDatabase
  | exit (code : Text)
  | notConnected
  | queryFailed (sql message : Text)
  | queryNotText
  /-- The rows of an answer have fewer cells than it has columns. -/
  | missingCells (width columns : Nat)
  | cannotConnect (message : Text)
  | noCollection (name : Text)
  | service (message : Text)
  | noApiKey (name : Text)
  | notTextColumn
  | notDataset
  /-- Columns are given by single values, which do not say how many rows there are. -/
  | rowsUnknown
  | unevenColumns
  /-- Some columns are given by rows and some by lists. -/
  | ambiguousRows
  | sampleTooLarge
  | sampleOfNothing
  | refused (message : Text)
  deriving Inhabited, Repr

namespace Fault

def message : Fault → Text
  | noAttribute owner name => "'" ++ owner.label ++ "' object has no attribute '" ++ name ++ "'"
  | missingKey key => key.literal
  | notIterable k => "'" ++ k.label ++ "' object is not iterable"
  | notSearchable k => "argument of type '" ++ k.label ++ "' is not iterable"
  | notSubscriptable k => "'" ++ k.label ++ "' object is not subscriptable"
  | textIndex k => "string indices must be integers, not '" ++ k.label ++ "'"
  | listIndex k => "list indices must be integers or slices, not " ++ k.label
  | outOfRange => "list index out of range"
  | textOutOfRange => "string index out of range"
  | noLength k => "object of type '" ++ k.label ++ "' has no len()"
  | unhashable k => "unhashable type: '" ++ k.label ++ "'"
  | joinItem i k =>
    "sequence item " ++ toString i ++ ": expected str instance, " ++ k.label ++ " found"
  | joinSource => "can only join an iterable"
  | operands op l r =>
    "unsupported operand type(s) for " ++ op ++ ": '" ++ l.label ++ "' and '" ++ r.label ++ "'"
  | appendText r => "can only concatenate str (not \"" ++ r.label ++ "\") to str"
  | appendList r => "can only concatenate list (not \"" ++ r.label ++ "\") to list"
  | divisionOperand =>
    "ufunc 'divide' not supported for the input types, and the inputs could not be safely " ++
      "coerced to any supported types according to the casting rule ''safe''"
  | unordered op l r =>
    "'" ++ op ++ "' not supported between instances of '" ++ l.label ++ "' and '" ++ r.label ++ "'"
  | notNumeral s =>
    "invalid literal for int() with base 10: " ++ (Text.quoted s).take 200
  | numeralTooLong n =>
    "Exceeds the limit (4300 digits) for integer string conversion: value has " ++ toString n ++
      " digits; use sys.set_int_max_str_digits() to increase the limit"
  | numberTooLong =>
    "Exceeds the limit (4300 digits) for integer string conversion; " ++
      "use sys.set_int_max_str_digits() to increase the limit"
  | cellTooBig => "Value is too big!"
  | cellTooSmall => "Value is too small"
  | notIntegral k =>
    "int() argument must be a string, a bytes-like object or a real number, not '" ++ k.label ++ "'"
  | infinite => "cannot convert float infinity to integer"
  | notANumber => "cannot convert float NaN to integer"
  | tooLarge => "int too large to convert to float"
  | divisionByZero => "division by zero"
  | floatDivisionByZero => "float division by zero"
  | tooFewItems expected got =>
    "not enough values to unpack (expected " ++ toString expected ++ ", got " ++ toString got ++ ")"
  | tooManyItems expected => "too many values to unpack (expected " ++ toString expected ++ ")"
  | notUnpackable k => "cannot unpack non-iterable " ++ k.label ++ " object"
  | cellOutOfRange => "tuple index out of range"
  | recordSlice => "unhashable type: 'slice'"
  | bytesNeeded => "a bytes-like object is required, not 'str'"
  | noWidth k => "unsupported format string passed to " ++ k.label ++ ".__format__"
  | numberFormat k code =>
    "Unknown format code '" ++ code ++ "' for object of type '" ++ k.label ++ "'"
  | sliceBound => "slice indices must be integers or None or have an __index__ method"
  | circular => "maximum recursion depth exceeded"
  | malformed description => description
  | tooDeep nesting => "maximum recursion depth exceeded while " ++ nesting.activity
  | undecodable problem => problem.message
  | unencodable halves => halves.message
  | unpairedHalf => "Unpaired high surrogate when decoding 'string'"
  | pathNeeded .lookUp k =>
    "stat: path should be string, bytes, os.PathLike or integer, not " ++ k.label
  | pathNeeded .join k =>
    "join() argument must be str, bytes, or os.PathLike object, not '" ++ k.label ++ "'"
  | pathNeeded .other k => "expected str, bytes or os.PathLike object, not " ++ k.label
  | noFile path => "[Errno 2] No such file or directory: " ++ Text.quoted path
  | isFolder path => "[Errno 21] Is a directory: " ++ Text.quoted path
  | notFolder path => "[Errno 20] Not a directory: " ++ Text.quoted path
  | fileExists path => "[Errno 17] File exists: " ++ Text.quoted path
  | nameTooLong path => "[Errno 36] File name too long: " ++ Text.quoted path
  | nullInPath => "embedded null byte"
  | noDatabase => "SQL FILE NOT FOUND"
  | exit code => code
  | notConnected => "Connection is not open. Please use the 'with' block."
  | queryFailed sql msg => "Execution failed on sql '" ++ sql ++ "': " ++ msg
  | queryNotText => "Query must be a string unless using sqlalchemy."
  | missingCells width columns =>
    "Length mismatch: Expected axis has " ++ toString width ++ " elements, new values have " ++
      toString columns ++ " elements"
  | cannotConnect msg => msg
  | noCollection name => "Collection " ++ name ++ " does not exist."
  | service msg => msg
  | noApiKey name => name ++ " not found in environment variables."
  | notTextColumn => "Can only use .str accessor with string values!"
  | notDataset => "DataFrame constructor not properly called!"
  | rowsUnknown => "If using all scalar values, you must pass an index"
  | unevenColumns => "All arrays must be of the same length"
  | ambiguousRows => "Mixing dicts with non-Series may lead to ambiguous ordering."
  | sampleOfNothing => "a must be greater than 0 unless no samples are taken"
  | sampleTooLarge => "Cannot take a larger sample than population when 'replace=False'"
  | refused msg => msg

end Fault

end QueryBench
