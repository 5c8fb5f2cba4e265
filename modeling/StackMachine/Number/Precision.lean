import StackMachine.Number.Decimal
import StackMachine.Number.FloatText

/-! # Doubles to a given precision

The digits of a double, rounded to a number of places that is asked for instead
of to the fewest that read back. The rounding is exact, a tie going to the even
digit. -/

namespace StackMachine.Binary64

inductive Style where
  /-- With that many digits after the point. -/
  | fixed
  /-- With one digit before the point, that many after it, and an exponent. -/
  | scientific
  /-- With that many digits, and an exponent only if the number is small or large for them. -/
  | general
  deriving DecidableEq, Repr

/-- The least power of ten of a first digit that is written without an exponent. -/
def leastGeneralPower : Int := -4

/-- A number of digits that no double exceeds. -/
def mostDigits : Nat := 1100

/-- The first `count` digits of `num / den`, rounded, and the power of ten of the first of them.
Zero counts as having the power zero. -/
def leadingDigits (count num den : Nat) : Nat × Int :=
  if num = 0 then (0, 0)
  else
    let power := floorLog10 num den
    let shift : Int := count - 1 - power
    let digits := roundQuotient (num * tenPow shift.toNat) (den * tenPow (-shift).toNat)
    -- rounding may carry into one digit more, which is then followed by zeros only
    if digits < tenPow count then (digits, power) else (digits / 10, power + 1)

/-- A decimal number without the zeros at the end of its places, nor a point after which nothing
is left. -/
def withoutIdlePlaces (s : String) : String :=
  if s.toList.contains '.' then
    String.ofList ((s.toList.reverse.dropWhile (· == '0')).dropWhile (· == '.')).reverse
  else s

def withPoint (s : String) : String := if s.toList.contains '.' then s else s ++ "."

def timesPower (mantissa : String) (power : Int) : String :=
  mantissa ++ "e" ++ exponentText power

/-- The number `num / den` in a style; `keepPlaces` keeps the point and all places. Where idle
places are not kept, no more digits are formed than a double has. -/
def Style.magnitude (style : Style) (precision : Nat) (keepPlaces : Bool) (num den : Nat) :
    String :=
  match style with
  | .fixed =>
    let written := Decimal.fixed (toString (roundQuotient (num * tenPow precision) den)) precision
    if keepPlaces then withPoint written else written
  | .scientific =>
    let (digits, power) := leadingDigits (precision + 1) num den
    let mantissa := Decimal.fixed (toString digits) precision
    timesPower (if keepPlaces then withPoint mantissa else mantissa) power
  | .general =>
    let count := max (if keepPlaces then precision else min precision mostDigits) 1
    let (digits, power) := leadingDigits count num den
    if leastGeneralPower ≤ power ∧ power < count then
      let written := Decimal.fixed (toString digits) (count - 1 - power).toNat
      if keepPlaces then withPoint written else withoutIdlePlaces written
    else
      let mantissa := Decimal.fixed (toString digits) (count - 1)
      timesPower (if keepPlaces then withPoint mantissa else withoutIdlePlaces mantissa) power

/-- The size of a double in a style, and whether it is negative. A NaN has no sign. -/
def Style.write (style : Style) (precision : Nat) (keepPlaces : Bool) (x : Float) :
    Bool × String :=
  match parts x with
  | .nan => (false, "nan")
  | .infinite negative => (negative, "inf")
  | .finite negative mantissa exponent =>
    (negative, style.magnitude precision keepPlaces (mantissa <<< exponent.toNat)
      (1 <<< (-exponent).toNat))

end StackMachine.Binary64
