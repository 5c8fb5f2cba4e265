import StackMachine.ErrorClass
import StackMachine.Text.Quoted

/-! # Problems of templates

Why a template cannot be filled: it is malformed, it does not fit its arguments,
or an argument cannot be written in the way it asks for. -/

namespace StackMachine.Template

/-- What stands for a number that is no integer. -/
inductive Unbounded where
  | floatInfinity
  | floatNan
  | decimalInfinity
  | decimalNan
  deriving DecidableEq, Repr

def Unbounded.name : Unbounded → String
  | .floatInfinity => "float infinity"
  | .floatNan => "float NaN"
  | .decimalInfinity => "Infinity"
  | .decimalNan => "NaN"

def Unbounded.isInfinite : Unbounded → Bool
  | .floatInfinity | .decimalInfinity => true
  | .floatNan | .decimalNan => false

/-- A cause for which a template cannot be filled. -/
inductive Problem where
  /-- A key is asked for and the arguments have no keys. -/
  | noMapping
  | unclosedKey
  /-- The template ends within a directive. -/
  | cutShort
  | widthTooLarge
  | precisionTooLarge
  /-- A width or precision is to be taken from an argument that is no integer. -/
  | sizeNotInteger
  /-- A width is to be taken from an argument that is out of range. -/
  | widthOutOfRange
  /-- A precision is to be taken from an argument that is out of range. -/
  | precisionOutOfRange
  /-- An integer is to have more digits than a text can. -/
  | tooManyDigits
  | tooFewArguments
  | tooManyArguments
  /-- A directive ends in a character that is no conversion. -/
  | unknownConversion (letter : Char) (index : Nat)
  | integerRequired (letter : Char) (kind : String)
  | realRequired (letter : Char) (kind : String)
  /-- A value has no nearest double. -/
  | doubleRequired (kind : String)
  /-- A signaling NaN has no nearest double. -/
  | signalingDouble
  /-- A number has no integer part. -/
  | noIntegerPart (number : Unbounded)
  | characterRequired
  /-- A number is not that of a character. -/
  | characterOutOfRange
  /-- A sequence is asked for a key. -/
  | positionRequired (sequence : String)
  deriving DecidableEq, Repr

/-- The number of a character in hexadecimal, without zeros in front. -/
def hexText (c : Char) : String :=
  let digits := (Text.hexDigits 6 c.toNat).dropWhile (· == '0')
  String.ofList (if digits.isEmpty then ['0'] else digits)

def shownLetter (c : Char) : Char := if 0x1f ≤ c.toNat && c.toNat ≤ 0x7e then c else '?'

def Problem.message : Problem → String
  | .noMapping => "format requires a mapping"
  | .unclosedKey => "incomplete format key"
  | .cutShort => "incomplete format"
  | .widthTooLarge => "width too big"
  | .precisionTooLarge => "precision too big"
  | .sizeNotInteger => "* wants int"
  | .widthOutOfRange => "Python int too large to convert to C ssize_t"
  | .precisionOutOfRange => "Python int too large to convert to C int"
  | .tooManyDigits => "precision too large"
  | .tooFewArguments => "not enough arguments for format string"
  | .tooManyArguments => "not all arguments converted during string formatting"
  | .unknownConversion letter index =>
    "unsupported format character '" ++ (shownLetter letter).toString ++ "' (0x" ++
      hexText letter ++ ") at index " ++ toString index
  | .integerRequired letter kind =>
    "%" ++ letter.toString ++ " format: an integer is required, not " ++ kind
  | .realRequired letter kind =>
    "%" ++ letter.toString ++ " format: a real number is required, not " ++ kind
  | .doubleRequired kind => "must be real number, not " ++ kind
  | .signalingDouble => "cannot convert signaling NaN to float"
  | .noIntegerPart number => "cannot convert " ++ number.name ++ " to integer"
  | .characterRequired => "%c requires int or char"
  | .characterOutOfRange => "%c arg not in range(0x110000)"
  | .positionRequired sequence => sequence ++ " indices must be integers or slices, not str"

def Problem.errorClass : Problem → ErrorClass
  | .unclosedKey | .cutShort | .widthTooLarge | .precisionTooLarge | .unknownConversion _ _
  | .signalingDouble => .value
  | .widthOutOfRange | .precisionOutOfRange | .tooManyDigits | .characterOutOfRange => .overflow
  | .noIntegerPart number => if number.isInfinite then .overflow else .value
  | .noMapping | .sizeNotInteger | .tooFewArguments | .tooManyArguments | .integerRequired _ _
  | .realRequired _ _ | .doubleRequired _ | .characterRequired | .positionRequired _ => .type

end StackMachine.Template
