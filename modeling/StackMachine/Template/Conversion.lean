import StackMachine.Fault
import StackMachine.Number.Precision
import StackMachine.Template.Directive

/-! # Values as a directive writes them

Each conversion letter asks for a kind of value and writes it in its own way; the
sign, the mark of the base and the digits are kept apart until the width is
filled, because zeros go between the mark and the digits. -/

namespace StackMachine.Template

/-- The text of a value before its width is filled. -/
structure Body where
  /-- Whether it is a number, which has a sign and may be filled with zeros. -/
  isNumber : Bool
  negative : Bool
  mark : String
  digits : String

def Body.ofText (s : String) : Body := ⟨false, false, "", s⟩

def Body.sign (flags : Flags) (b : Body) : String :=
  if !b.isNumber then ""
  else if b.negative then "-"
  else if flags.plus then "+"
  else if flags.blank then " "
  else ""

/-- A body filled up to a width: with zeros before its digits, or with spaces on either side. -/
def Body.filled (flags : Flags) (left : Bool) (width : Nat) (b : Body) : String :=
  let front := b.sign flags ++ b.mark
  if left then Text.padRight width (front ++ b.digits)
  else if b.isNumber && flags.zero then
    front ++ Text.repeated '0' (width - (front ++ b.digits).length) ++ b.digits
  else Text.padLeft width (front ++ b.digits)

/-- The digits of a number to a base of up to sixteen, at least `least` of them. -/
def digitsOf (base least n : Nat) : String :=
  let digits := String.ofList (Nat.toDigits base n)
  Text.repeated '0' (least - digits.length) ++ digits

def wholeOfFloat (x : Float) : Except Fault Int :=
  match Binary64.parts x with
  | .nan => .error (.template (.noIntegerPart .floatNan))
  | .infinite _ => .error (.template (.noIntegerPart .floatInfinity))
  | .finite negative mantissa exponent =>
    let size : Int := (mantissa <<< exponent.toNat) >>> (-exponent).toNat
    .ok (if negative then -size else size)

/-- The integer part of a decimal. If it is too long to be written it is not formed, and the least
integer of which that is true stands for it. -/
def wholeOfDecimal : Decimal → Except Fault Int
  | .nan _ _ _ => .error (.template (.noIntegerPart .decimalNan))
  | .infinite _ => .error (.template (.noIntegerPart .decimalInfinity))
  | .finite negative coefficient exponent =>
    let power := exponent + digitCount coefficient - 1
    if coefficient = 0 ∨ power < 0 then .ok 0
    else
      let size : Int :=
        if (Integer.digitLimit : Int) ≤ power then Integer.unwritable
        else coefficient * tenPow exponent.toNat / tenPow (-exponent).toNat
      .ok (if negative then -size else size)

def wholeOf (letter : Char) : Value → Except Fault Int
  | .int n => .ok n
  | .bool b => .ok (if b then 1 else 0)
  | .float x => wholeOfFloat x
  | .rational q => .ok (Int.tdiv q.num q.den)
  | .decimal d => wholeOfDecimal d
  | v => .error (.template (.realRequired letter v.qualifiedKind))

def integerOf (letter : Char) : Value → Except Fault Int
  | .int n => .ok n
  | .bool b => .ok (if b then 1 else 0)
  | v => .error (.template (.integerRequired letter v.qualifiedKind))

def ofRounding (number : Except Number.Failure Float) (fault : Fault) : Except Fault Float :=
  match number with
  | .ok x => .ok x
  | .error _ => .error fault

def doubleOf : Value → Except Fault Float
  | .float x => .ok x
  | .int n => ofRounding (Number.roundInt n) .integerTooLarge
  | .bool b => .ok (if b then 1.0 else 0.0)
  | .rational q => ofRounding (Number.roundRat q) .quotientTooLarge
  | .decimal (.nan _ true _) => .error (.template .signalingDouble)
  | .decimal d => .ok d.toFloat
  | v => .error (.template (.doubleRequired v.qualifiedKind))

/-- The character a value stands for: a text of one character, or the number of one. -/
def characterOf : Value → Except Fault Char
  | .text s =>
    match s.toList with
    | [c] => .ok c
    | _ => .error (.template .characterRequired)
  | .int n =>
    if 0 ≤ n ∧ n < 0x110000 then .ok (Char.ofNat n.toNat)
    else .error (.template .characterOutOfRange)
  | .bool b => .ok (Char.ofNat (if b then 1 else 0))
  | _ => .error (.template .characterRequired)

def textBody (precision : Option Nat) (text : Option String) : Except Fault Body :=
  match text with
  | none => .error .digitLimit
  | some s =>
    .ok (.ofText (precision.elim s fun count => String.ofList (s.toList.take count)))

/-- The most digits that can be asked for. -/
def mostDigits : Nat := 0x7ffffffc

def leastDigits (precision : Option Nat) : Except Fault Nat :=
  let count := precision.getD 0
  if count ≤ mostDigits then .ok count else .error (.template .tooManyDigits)

def decimalBody (precision : Option Nat) (n : Int) : Except Fault Body := do
  let least ← leastDigits precision
  if Integer.isWritable n then return ⟨true, n < 0, "", digitsOf 10 least n.natAbs⟩
  else .error .digitLimit

/-- An integer to a base, with the mark of the base if all is to be written. -/
def baseBody (base : Nat) (mark : String) (flags : Flags) (precision : Option Nat) (n : Int) :
    Except Fault Body :=
  (leastDigits precision).map fun least =>
    ⟨true, n < 0, if flags.full then mark else "", digitsOf base least n.natAbs⟩

def Body.capital (b : Body) : Body :=
  { b with mark := b.mark.map Char.toUpper, digits := b.digits.map Char.toUpper }

/-- The precision of a real number for which none is given. -/
def standardPrecision : Nat := 6

def realBody (style : Binary64.Style) (flags : Flags) (precision : Option Nat) (x : Float) :
    Body :=
  let (negative, size) := style.write (precision.getD standardPrecision) flags.full x
  ⟨true, negative, "", size⟩

def convert (view : View) (letter : Letter) (flags : Flags) (precision : Option Nat) (v : Value) :
    Except Fault Body :=
  match letter.char with
  | 's' => textBody precision (v.display? view)
  | 'r' => textBody precision (v.literal? view)
  | 'a' => textBody precision ((v.literal? view).map Text.inFirstBlock)
  | 'c' => (characterOf v).map fun c => .ofText c.toString
  -- only the conversions to decimal integers cut off a fraction
  | 'd' | 'i' | 'u' => (wholeOf letter.char v).bind (decimalBody precision)
  | 'o' => (integerOf 'o' v).bind (baseBody 8 "0o" flags precision)
  | 'x' => (integerOf 'x' v).bind (baseBody 16 "0x" flags precision)
  | 'X' => ((integerOf 'X' v).bind (baseBody 16 "0x" flags precision)).map Body.capital
  | 'e' => (doubleOf v).map (realBody .scientific flags precision)
  | 'E' => (doubleOf v).map fun x => (realBody .scientific flags precision x).capital
  | 'f' => (doubleOf v).map (realBody .fixed flags precision)
  | 'F' => (doubleOf v).map fun x => (realBody .fixed flags precision x).capital
  | 'g' => (doubleOf v).map (realBody .general flags precision)
  | 'G' => (doubleOf v).map fun x => (realBody .general flags precision x).capital
  | c => .error (.template (.unknownConversion c letter.index))

end StackMachine.Template
