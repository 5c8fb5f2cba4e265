import StackMachine.Number.Binary64
import StackMachine.Text.Joined

/-! # Decimal numbers

Floating point numbers to base ten of any length, with infinities and two kinds
of NaN, their scientific text, and the reading of such texts. -/

namespace StackMachine

/-- A finite decimal is `± coefficient * 10 ^ exponent`, and keeps the exponent it
was written with. A NaN may carry a payload, none being zero. -/
inductive Decimal where
  | finite (negative : Bool) (coefficient : Nat) (exponent : Int)
  | infinite (negative : Bool)
  | nan (negative signaling : Bool) (payload : Nat)
  deriving DecidableEq, Repr

namespace Decimal

def ofInt (n : Int) : Decimal := .finite (n < 0) n.natAbs 0

def isZero : Decimal → Bool
  | .finite _ coefficient _ => coefficient == 0
  | _ => false

/-- The digits of a coefficient with `places` of them after the point. -/
def fixed (digits : String) (places : Nat) : String :=
  if places = 0 then digits
  else
    let all := Text.repeated '0' (places + 1 - digits.length) ++ digits
    let whole := all.length - places
    String.ofList (all.toList.take whole) ++ "." ++ String.ofList (all.toList.drop whole)

/-- The digits of a coefficient with a point after the first, and the power of ten
of that first digit. -/
def scientific (digits : String) (power : Int) : String :=
  let mantissa := match digits.toList with
    | first :: second :: rest => String.ofList (first :: '.' :: second :: rest)
    | _ => digits
  mantissa ++ "E" ++ (if power < 0 then "" else "+") ++ toString power

/-- The text of a decimal: without an exponent while it has no zeros to add on the
right and at most six on the left of its digits. -/
def text : Decimal → String
  | .finite negative coefficient exponent =>
    let digits := toString coefficient
    let power := exponent + digits.length - 1
    (if negative then "-" else "") ++
      (if exponent ≤ 0 ∧ -6 ≤ power then fixed digits (-exponent).toNat
       else scientific digits power)
  | .infinite negative => if negative then "-Infinity" else "Infinity"
  | .nan negative signaling payload =>
    (if negative then "-" else "") ++ (if signaling then "sNaN" else "NaN") ++
      (if payload = 0 then "" else toString payload)

/-- The number of a nonempty list of decimal digits. -/
def digits? (cs : List Char) : Option Nat :=
  if cs.isEmpty || !cs.all Char.isDigit then none
  else some (cs.foldl (fun n c => 10 * n + (c.toNat - 48)) 0)

def splitSign : List Char → Bool × List Char
  | '-' :: rest => (true, rest)
  | '+' :: rest => (false, rest)
  | cs => (false, cs)

/-- Reads digits with at most one point among them: all the digits, and how many
follow the point. -/
def pointed? (cs : List Char) : Option (Nat × Nat) :=
  let whole := cs.takeWhile (· != '.')
  let places := (cs.dropWhile (· != '.')).drop 1
  (digits? (whole ++ places)).map fun n => (n, places.length)

def exponent? (cs : List Char) : Option Int :=
  let (negative, size) := splitSign cs
  (digits? size).map fun (n : Nat) => if negative then -(n : Int) else (n : Int)

/-- Reads an unsigned finite number in lower case. -/
def finite? (negative : Bool) (cs : List Char) : Option Decimal :=
  let mantissa := cs.takeWhile (· != 'e')
  let rest := cs.dropWhile (· != 'e')
  match pointed? mantissa, (if rest.isEmpty then some 0 else exponent? (rest.drop 1)) with
  | some (coefficient, places), some power => some (.finite negative coefficient (power - places))
  | _, _ => none

def nan? (negative signaling : Bool) (cs : List Char) : Option Decimal :=
  if cs.isEmpty then some (.nan negative signaling 0)
  else (digits? cs).map (.nan negative signaling ·)

/-- Reads the text of a decimal, in any case of letters. -/
def read? (s : String) : Option Decimal :=
  let (negative, rest) := splitSign (s.toList.map Char.toLower)
  match rest with
  | 'i' :: 'n' :: 'f' :: tail =>
    if tail = [] ∨ tail = "inity".toList then some (.infinite negative) else none
  | 'n' :: 'a' :: 'n' :: payload => nan? negative false payload
  | 's' :: 'n' :: 'a' :: 'n' :: payload => nan? negative true payload
  | cs => finite? negative cs

/-- The least exponent that a decimal may be given. -/
def leastExponent : Int := -1999999999999999997

/-- The greatest power of ten that the first digit of a decimal may be given. -/
def greatestPower : Int := 999999999999999999

/-- Whether a decimal may be given. A zero counts as one digit. -/
def isWithinLimits : Decimal → Bool
  | .finite _ coefficient exponent =>
    leastExponent ≤ exponent && exponent + digitCount coefficient - 1 ≤ greatestPower
  | _ => true

/-- The double nearest to a decimal. Far outside the range of doubles the answer is
known without forming the power of ten. -/
def toFloat : Decimal → Float
  | .finite negative coefficient exponent =>
    let power := exponent + digitCount coefficient - 1
    -- all positive doubles lie between the powers -400 and 400 of ten
    let clipped := if coefficient = 0 ∨ power < -400 then 0 else coefficient
    if clipped ≠ 0 ∧ 400 < power then Binary64.infinity negative
    else
      let exponent := if clipped = 0 then 0 else exponent
      (Binary64.nearest? negative (clipped * tenPow exponent.toNat)
        (tenPow (-exponent).toNat)).getD (Binary64.infinity negative)
  | .infinite negative => Binary64.infinity negative
  | .nan _ _ _ => Binary64.nan

/-- Whether a natural number is less than a decimal; none when it is a NaN. The
magnitudes are compared first, so that no large power is formed. -/
def exceeds? (n : Nat) : Decimal → Option Bool
  | .nan _ _ _ => none
  | .infinite negative => some !negative
  | .finite negative coefficient exponent =>
    let power := exponent + digitCount coefficient - 1
    if coefficient = 0 ∨ negative then some false
    else if (digitCount n : Int) - 1 < power then some true
    -- between zero and one there is no natural number
    else if power < 0 then some (n == 0)
    else some (n * tenPow (-exponent).toNat < coefficient * tenPow exponent.toNat)

end Decimal

end StackMachine
